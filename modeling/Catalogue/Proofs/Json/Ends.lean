import Catalogue.Proofs.Json.Alike
import Catalogue.Proofs.Json.Written

/-!
# Blanks at the ends of a JSON text

What is read as a value stands between spaces, and it is read as the same value between any others
(`Catalogue.Json.ofSymbols?_upToBlanks`). No other blanks may stand in front of it
(`Catalogue.Json.isSpace_of_ofSymbols?`).

The loops over items and members follow each other if their turns do
(`Catalogue.Json.foldItems_follows`, `Catalogue.Json.foldMembers_follows`), and so values do
(`Catalogue.Json.value_follows`). Texts of different lengths are read with different fuel: since
every turn uses up a symbol, what is left bounds the turns that are to come.
-/

namespace Catalogue

namespace Json

open Catalogue.Symbol

variable {n : Nat} {c c' : Cursor}

/-! ### Items and members -/

/-- There is something that is not blank. -/
def HasMore (c : Cursor) : Prop := ∃ s ∈ c.rest, s.isBlank = false

/-- Cursors that stand alike before what is not blank look at the same symbol. -/
theorem Cursor.Alike.exists_head (h : c.Alike n c') (hc : HasMore c) :
    ∃ m s xs ys, n = m + 1 ∧ c.rest = s :: xs ∧ c'.rest = s :: ys := by
  obtain ⟨s, xs, ys, hxs, hys, -⟩ := h.rests.exists_cons hc
  have hlength := h.length
  rw [hys, List.length_cons] at hlength
  exact ⟨n - 1, s, xs, ys, by omega, hxs, hys⟩

theorem nextItem_of_rest {first : Bool} {s : Symbol} {xs : List Symbol}
    (hc : c.skipSpace.rest = s :: xs) :
    nextItem first c =
      if s = .char ']' then .ok none
      else if first then .ok (some c.skipSpace)
      else if s = .char ',' then
        match c.skipSpace.advance.skipSpace.rest with
        | [] => c.skipSpace.advance.skipSpace.faultNext .endInValue
        | t :: _ =>
          if t = .char ']' then c.skipSpace.advance.skipSpace.faultNext .trailingComma
          else .ok (some c.skipSpace.advance.skipSpace)
      else c.skipSpace.faultNext .noCommaInArray := by
  rw [nextItem]
  simp only [hc]
  cases s with
  | char ch =>
    have hchar : ∀ d, ch = d ↔ Symbol.char ch = .char d := fun d =>
      (iff_of_eq (Symbol.char.injEq ch d)).symm
    exact if_congr (hchar ']') rfl (if_congr Iff.rfl rfl (if_congr (hchar ',') rfl rfl))
  | stray n => simp

/-- Where nothing is left there is no next item. -/
theorem nextItem_of_nil {first : Bool} (hc : c.skipSpace.rest = []) :
    nextItem first c = c.skipSpace.faultNext .endInArray := by
  rw [nextItem]
  simp only [hc]

/-- The end of an array. -/
theorem nextItem_none {first : Bool} (h : c.Alike n c') (hnext : nextItem first c = .ok none) :
    nextItem first c' = .ok none ∧ c.skipSpace.advance.Alike n c'.skipSpace.advance ∧ 0 < n := by
  cases hc : c.skipSpace.rest with
  | nil =>
    rw [nextItem_of_nil hc] at hnext
    cases hnext
  | cons s xs =>
    rw [nextItem_of_rest hc] at hnext
    split_ifs at hnext with hend hfirst hcomma
    · subst hend
      obtain ⟨m, ys, rfl, hc', hadvance⟩ := h.skipSpace.at_cons hc (by decide)
      rw [nextItem_of_rest hc', if_pos rfl]
      exact ⟨rfl, hadvance.mono (Nat.le_succ m), Nat.succ_pos m⟩
    · cases hnext
    · split at hnext
      · cases hnext
      · split_ifs at hnext
        · cases hnext
        · cases hnext
    · cases hnext

/-- The next item of an array, if there is more than blanks. -/
theorem nextItem_some {first : Bool} {d : Cursor} (h : c.Alike n c')
    (hnext : nextItem first c = .ok (some d)) (hd : HasMore d) :
    ∃ d', nextItem first c' = .ok (some d') ∧ d.Alike n d' := by
  cases hc : c.skipSpace.rest with
  | nil =>
    rw [nextItem_of_nil hc] at hnext
    cases hnext
  | cons s xs =>
    rw [nextItem_of_rest hc] at hnext
    split_ifs at hnext with hend hfirst hcomma
    · cases hnext
    · cases hnext
      obtain ⟨m, s', xs', ys, rfl, hs, hc'⟩ := h.skipSpace.exists_head hd
      obtain ⟨rfl, -⟩ := List.cons.inj (hc.symm.trans hs)
      rw [nextItem_of_rest hc', if_neg hend, if_pos hfirst]
      exact ⟨_, rfl, h.skipSpace⟩
    · subst hcomma
      obtain ⟨m, ys, rfl, hc', hadvance⟩ := h.skipSpace.at_cons hc (by decide)
      split at hnext
      · cases hnext
      · rename_i t zs ht
        split_ifs at hnext with htrailing
        · cases hnext
        · cases hnext
          obtain ⟨m', t', zs', ws, rfl, ht', hws⟩ := hadvance.skipSpace.exists_head hd
          obtain ⟨rfl, -⟩ := List.cons.inj (ht.symm.trans ht')
          rw [nextItem_of_rest hc', if_neg hend, if_neg hfirst, if_pos rfl]
          simp only [hws]
          rw [if_neg htrailing]
          exact ⟨_, rfl, hadvance.skipSpace.mono (Nat.le_succ _)⟩
    · cases hnext

/-- What is read where a **key is due**. -/
def dueKey (c : Cursor) : Except Fault (Option Cursor) :=
  match c.rest with
  | [] => c.faultNext .endInValue
  | s :: _ =>
    if s = .char '"' then .ok (some c.advance)
    else if s = .char '\x7d' then c.faultNext .trailingComma
    else c.faultNext .keyNotString

theorem dueKey_eq_ok {o : Option Cursor} (h : dueKey c = .ok o) :
    ∃ xs, c.rest = .char '"' :: xs ∧ o = some c.advance := by
  rw [dueKey] at h
  split at h
  · cases h
  · rename_i s xs hrest
    split_ifs at h with hquote
    · cases h
      exact ⟨xs, hquote ▸ hrest, rfl⟩
    · cases h
    · cases h

theorem dueKey_of_quote {xs : List Symbol} (hc : c.rest = .char '"' :: xs) :
    dueKey c = .ok (some c.advance) := by
  simp only [dueKey, hc, if_true]

theorem nextKey_eq (first : Bool) (c : Cursor) :
    nextKey first c =
      match c.skipSpace.rest with
      | [] => c.skipSpace.faultNext .endInObject
      | s :: _ =>
        if s = .char '\x7d' then .ok none
        else if first then dueKey c.skipSpace
        else if s = .char ',' then dueKey c.skipSpace.advance.skipSpace
        else c.skipSpace.faultNext .noCommaInObject := rfl

/-- Where nothing is left there is no next key. -/
theorem nextKey_of_nil {first : Bool} (hc : c.skipSpace.rest = []) :
    nextKey first c = c.skipSpace.faultNext .endInObject := by
  rw [nextKey_eq, hc]

theorem nextKey_of_rest {first : Bool} {s : Symbol} {xs : List Symbol}
    (hc : c.skipSpace.rest = s :: xs) :
    nextKey first c =
      if s = .char '\x7d' then .ok none
      else if first then dueKey c.skipSpace
      else if s = .char ',' then dueKey c.skipSpace.advance.skipSpace
      else c.skipSpace.faultNext .noCommaInObject := by
  rw [nextKey_eq, hc]

/-- The end of an object. -/
theorem nextKey_none {first : Bool} (h : c.Alike n c') (hnext : nextKey first c = .ok none) :
    nextKey first c' = .ok none ∧ c.skipSpace.advance.Alike n c'.skipSpace.advance ∧ 0 < n := by
  cases hc : c.skipSpace.rest with
  | nil =>
    rw [nextKey_of_nil hc] at hnext
    cases hnext
  | cons s xs =>
    rw [nextKey_of_rest hc] at hnext
    split_ifs at hnext with hend hfirst hcomma
    · subst hend
      obtain ⟨m, ys, rfl, hc', hadvance⟩ := h.skipSpace.at_cons hc (by decide)
      rw [nextKey_of_rest hc', if_pos rfl]
      exact ⟨rfl, hadvance.mono (Nat.le_succ m), Nat.succ_pos m⟩
    · obtain ⟨-, -, hkey⟩ := dueKey_eq_ok hnext
      cases hkey
    · obtain ⟨-, -, hkey⟩ := dueKey_eq_ok hnext
      cases hkey
    · cases hnext

/-- A key that is due. -/
theorem dueKey_alike {d : Cursor} (h : c.Alike n c') (hkey : dueKey c = .ok (some d)) :
    ∃ m d', n = m + 1 ∧ dueKey c' = .ok (some d') ∧ d.Alike m d' := by
  obtain ⟨xs, hxs, hd⟩ := dueKey_eq_ok hkey
  obtain rfl := Option.some.inj hd
  obtain ⟨m, ys, rfl, hys, hadvance⟩ := h.at_cons hxs (by decide)
  exact ⟨m, _, rfl, dueKey_of_quote hys, hadvance⟩

/-- The next key of an object. -/
theorem nextKey_some {first : Bool} {d : Cursor} (h : c.Alike n c')
    (hnext : nextKey first c = .ok (some d)) :
    ∃ m d', n = m + 1 ∧ nextKey first c' = .ok (some d') ∧ d.Alike m d' := by
  cases hc : c.skipSpace.rest with
  | nil =>
    rw [nextKey_of_nil hc] at hnext
    cases hnext
  | cons s xs =>
    rw [nextKey_of_rest hc] at hnext
    split_ifs at hnext with hend hfirst hcomma
    · cases hnext
    · obtain ⟨ys, hquote, -⟩ := dueKey_eq_ok hnext
      obtain ⟨-, zs, -, hc', -⟩ := h.skipSpace.at_cons hquote (by decide)
      obtain ⟨m, d', hm, hkey, halike⟩ := dueKey_alike h.skipSpace hnext
      rw [nextKey_of_rest hc', if_neg (by decide), if_pos hfirst]
      exact ⟨m, d', hm, hkey, halike⟩
    · subst hcomma
      obtain ⟨k, ys, rfl, hc', hadvance⟩ := h.skipSpace.at_cons hc (by decide)
      obtain ⟨m, d', hm, hkey, halike⟩ := dueKey_alike hadvance.skipSpace hnext
      rw [nextKey_of_rest hc', if_neg hend, if_neg hfirst, if_pos rfl]
      exact ⟨k, d', rfl, hkey, halike.mono (by omega)⟩
    · cases hnext

/-- The colon behind a key. -/
theorem colon_alike {d : Cursor} (h : c.Alike n c') (hcolon : colon c = .ok d) :
    ∃ d', colon c' = .ok d' ∧ d.Alike n d' := by
  rw [colon] at hcolon ⊢
  split_ifs at hcolon with hhead
  · cases hcolon
    rw [if_pos ((h.skipSpace.head?_iff (by decide)).mp hhead)]
    exact ⟨_, rfl, h.skipSpace.advance⟩
  · cases hcolon

/-! ### Loops -/

section Loops

variable {σ : Type} {most : Nat}

/-- **The loop over items follows** if its turns do. -/
theorem foldItems_follows {read read' : σ → Reader σ}
    (hmore : ∀ out c a, read out c = .ok a → HasMore c)
    (hread : ∀ out n c c', n < most → c.Alike (n + 1) c' → Follows n (read out c) (read' out c'))
    (fuel fuel' index : Nat) (out : σ) (hn : n ≤ fuel') (hmost : n ≤ most) (h : c.Alike n c') :
    Follows n (foldItems read fuel index out c) (foldItems read' fuel' index out c') := by
  -- a turn leaves less to be read, so the fuel of the second loop lasts as long as it is needed
  induction fuel generalizing fuel' index out n c c' with
  | zero => exact .error
  | succ fuel ih =>
    rw [foldItems]
    rcases hnext : nextItem (index = 0) c with f | _ | d
    · exact Follows.error (f := f)
    · obtain ⟨hnext', halike, hpos⟩ := nextItem_none h hnext
      obtain ⟨fuel', rfl⟩ : ∃ k, fuel' = k + 1 := ⟨fuel' - 1, by omega⟩
      rw [foldItems, hnext']
      exact .ok halike out
    · dsimp only
      rcases hturn : read out d with f | ⟨out', e⟩
      · exact .error
      · have hd := hmore out d _ hturn
        obtain ⟨d', hnext', halike⟩ := nextItem_some h hnext hd
        obtain ⟨m, -, -, -, rfl, -, -⟩ := halike.exists_head hd
        obtain ⟨fuel', rfl⟩ : ∃ k, fuel' = k + 1 := ⟨fuel' - 1, by omega⟩
        obtain ⟨e', hturn', hends⟩ := hread out m d d' (by omega) halike out' e hturn
        rw [foldItems, hnext']
        dsimp only
        rw [hturn']
        exact (ih fuel' (index + 1) out' (by omega) (by omega) hends).mono (Nat.le_succ m)

/-- **The loop over members follows** if its turns do. -/
theorem foldMembers_follows {refuse : String → σ → Option Mismatch}
    {read read' : String → σ → Reader σ}
    (hread : ∀ key out n c c', n < most → c.Alike (n + 1) c' →
      Follows n (read key out c) (read' key out c'))
    (fuel fuel' : Nat) (first : Bool) (out : σ) (hn : n ≤ fuel') (hmost : n ≤ most)
    (h : c.Alike n c') :
    Follows n (foldMembers refuse read fuel first out c)
      (foldMembers refuse read' fuel' first out c') := by
  induction fuel generalizing fuel' first out n c c' with
  | zero => exact .error
  | succ fuel ih =>
    rw [foldMembers]
    rcases hnext : nextKey first c with f | _ | d
    · exact .error
    · obtain ⟨hnext', halike, hpos⟩ := nextKey_none h hnext
      obtain ⟨fuel', rfl⟩ : ∃ k, fuel' = k + 1 := ⟨fuel' - 1, by omega⟩
      rw [foldMembers, hnext']
      exact .ok halike out
    · obtain ⟨m, d', rfl, hnext', halike⟩ := nextKey_some h hnext
      obtain ⟨fuel', rfl⟩ : ∃ k, fuel' = k + 1 := ⟨fuel' - 1, by omega⟩
      rw [foldMembers, hnext']
      dsimp only
      rcases (readString_follows true halike).cases with ⟨f, hf⟩ | ⟨key, e, e', he, he', hkey⟩
      · rw [hf]
        exact .error
      · rw [he, he']
        dsimp only
        cases refuse key out with
        | some m => exact .error
        | none =>
          dsimp only
          rcases hcolon : colon e with f | i
          · exact .error
          · obtain ⟨i', hcolon', hi⟩ := colon_alike hkey hcolon
            rw [hcolon']
            dsimp only
            rcases (hread key out m i i' (by omega) (hi.mono (Nat.le_succ m))).cases with
              ⟨f, hf⟩ | ⟨out', j, j', hj, hj', hends⟩
            · rw [hf]
              exact .error
            · rw [hj, hj']
              exact (ih fuel' false out' (by omega) (by omega) hends).mono (Nat.le_succ m)

end Loops

/-! ### Values -/

/-- A value that was read had an opening. -/
theorem exists_opening_of_value {fuel depth : Nat} {a : Json × Cursor}
    (h : value fuel depth c = .ok a) : ∃ b, opening true c = .ok b := by
  cases hopen : opening true c with
  | ok b => exact ⟨b, rfl⟩
  | error f =>
    cases depth with
    | zero =>
      rw [value, hopen] at h
      cases h
    | succ depth =>
      rw [value, hopen] at h
      cases h

/-- A value that was read is more than blanks. -/
theorem hasMore_of_value {fuel depth : Nat} {a : Json × Cursor}
    (h : value fuel depth c = .ok a) : HasMore c := by
  obtain ⟨b, hb⟩ := exists_opening_of_value h
  obtain ⟨ch, xs, hxs, hblank⟩ := exists_of_opening hb
  rw [Cursor.rest_skipSpace] at hxs
  refine ⟨.char ch, (List.dropWhile_sublist Symbol.isSpace).subset ?_, hblank⟩
  rw [hxs]
  exact List.mem_cons_self

/-- **Values follow**: what is read before blanks is read before others. -/
theorem value_follows (fuel depth : Nat) {fuel' : Nat} (hn : n < fuel')
    (h : c.Alike (n + 1) c') : Follows n (value fuel depth c) (value fuel' depth c') := by
  -- the fuel stays what it is from depth to depth, and bounds what is left at all of them
  induction depth generalizing n c c' with
  | zero =>
    rw [value, value]
    rcases hopen : opening true c with f | ⟨o, d⟩
    · exact .error
    · obtain ⟨d', hopen', halike⟩ := opening_opensAlike true h o d hopen
      rw [hopen']
      cases o with
      | scalar v => exact .ok halike v
      | array => exact .error
      | object => exact .error
  | succ depth ih =>
    rcases hopen : opening true c with f | ⟨o, d⟩
    · rw [value, hopen]
      exact .error
    · obtain ⟨d', hopen', halike⟩ := opening_opensAlike true h o d hopen
      cases o with
      | scalar v =>
        rw [value, value, hopen, hopen']
        exact .ok halike v
      | array =>
        rw [value_of_array hopen, value_of_array hopen']
        refine (foldItems_follows (fun out c a hturn => ?_) (fun out m c c' hm hc => ?_) fuel fuel'
          0 [] hn.le hn.le halike).map _
        · rcases hv : value fuel depth c with f | b
          · rw [hv] at hturn
            cases hturn
          · exact hasMore_of_value hv
        · exact (ih hm hc).map _
      | object =>
        rw [value_of_object hopen, value_of_object hopen']
        refine (foldMembers_follows (fun key out m c c' hm hc => ?_) fuel fuel' true [] hn.le hn.le
          halike).map object
        exact (ih hm hc).map (insertMember key · out)

/-! ### Texts -/

/-- Values depend on what comes behind the spaces. -/
theorem value_congr_skipSpace (h : c.skipSpace = c'.skipSpace) (fuel depth : Nat) :
    value fuel depth c = value fuel depth c' := by
  have hopen : opening true c = opening true c' := by
    rw [opening, opening, h]
  cases depth with
  | zero => rw [value, value, hopen]
  | succ depth => rw [value, value, hopen]

/-- Spaces in front are passed over. -/
theorem exists_skipSpace_append {front : List Symbol} (hfront : ∀ s ∈ front, s.isSpace = true)
    (xs : List Symbol) (p : Position) :
    ∃ q, Cursor.skipSpace ⟨front ++ xs, p⟩ = Cursor.skipSpace ⟨xs, q⟩ := by
  induction front generalizing p with
  | nil => exact ⟨p, rfl⟩
  | cons s front ih =>
    rw [List.forall_mem_cons] at hfront
    cases s with
    | stray n => cases hfront.1
    | char ch =>
      obtain ⟨q, hq⟩ := ih hfront.2 (p.after (.char ch))
      have hspace : Cursor.isSpace ch = true := hfront.1
      refine ⟨q, ?_⟩
      rw [← hq, List.cons_append, Cursor.skipSpace, Cursor.skipSpaceFrom, if_pos hspace]
      rfl

/-- Nothing but spaces is left when nothing more may come. -/
theorem noMore_eq_ok_iff : noMore c = .ok () ↔ ∀ s ∈ c.rest, s.isSpace = true := by
  have hnil : noMore c = .ok () ↔ c.skipSpace.rest = [] := by
    rw [noMore]
    cases c.skipSpace.rest with
    | nil => exact iff_of_true rfl rfl
    | cons s xs => exact iff_of_false nofun nofun
  rw [hnil, Cursor.rest_skipSpace, List.dropWhile_eq_nil_iff]

/-- A text is read as a value with spaces behind it. -/
theorem ofSymbols?_eq_ok_iff {xs : List Symbol} {v : Json} :
    ofSymbols? xs = .ok v ↔
      ∃ d, front xs = .ok (v, d) ∧ ∀ s ∈ d.rest, s.isSpace = true := by
  rw [ofSymbols?]
  rcases front xs with f | ⟨w, d⟩
  · constructor
    · intro h
      cases h
    · rintro ⟨d, hd, -⟩
      cases hd
  · dsimp only
    cases hmore : noMore d with
    | error f =>
      constructor
      · intro h
        cases h
      · rintro ⟨d', hd', hspace⟩
        cases hd'
        cases hmore.symm.trans (noMore_eq_ok_iff.mpr hspace)
    | ok u =>
      refine ⟨fun h => ?_, ?_⟩
      · cases h
        exact ⟨d, rfl, noMore_eq_ok_iff.mp hmore⟩
      · rintro ⟨d', hd', -⟩
        cases hd'
        rfl

/-- A value behind spaces is read as without them. -/
theorem exists_front_append {lead : List Symbol} (hlead : ∀ s ∈ lead, s.isSpace = true)
    (xs : List Symbol) :
    ∃ p, front (lead ++ xs) = value (lead ++ xs).length depthLimit ⟨xs, p⟩ := by
  obtain ⟨p, hp⟩ := exists_skipSpace_append hlead xs .start
  exact ⟨p, value_congr_skipSpace hp _ _⟩

/-- **Blanks at the ends are of no account.** What is read between spaces and blanks is read between
other spaces, too. -/
theorem ofSymbols?_upToBlanks {lead lead' xs ys : List Symbol} {v : Json}
    (hlead : ∀ s ∈ lead, s.isSpace = true) (hlead' : ∀ s ∈ lead', s.isSpace = true)
    (h : UpToBlanks xs ys) (hv : ofSymbols? (lead ++ xs) = .ok v) :
    ofSymbols? (lead' ++ ys) = .ok v := by
  obtain ⟨d, hd, hspace⟩ := ofSymbols?_eq_ok_iff.mp hv
  obtain ⟨p, hp⟩ := exists_front_append hlead xs
  obtain ⟨q, hq⟩ := exists_front_append hlead' ys
  rw [hp] at hd
  have halike : Cursor.Alike ys.length ⟨xs, p⟩ ⟨ys, q⟩ := ⟨h, Nat.le_refl _⟩
  -- something was read, so there is a symbol to pay for the value with
  obtain ⟨n, -, -, -, hn, -, -⟩ := halike.exists_head (hasMore_of_value hd)
  rw [hn] at halike
  have hfuel : n < (lead' ++ ys).length := by
    rw [List.length_append]
    omega
  obtain ⟨d', hd', hends⟩ := value_follows _ depthLimit hfuel halike v d hd
  exact ofSymbols?_eq_ok_iff.mpr ⟨d', hq.trans hd', hends.rests.forall_isSpace hspace⟩

/-- Blanks in front of what is read are spaces. -/
theorem isSpace_of_ofSymbols? {lead xs : List Symbol} {v : Json}
    (hlead : ∀ s ∈ lead, s.isBlank = true) (hv : ofSymbols? (lead ++ xs) = .ok v) :
    ∀ s ∈ lead, s.isSpace = true := by
  obtain ⟨d, hd, -⟩ := ofSymbols?_eq_ok_iff.mp hv
  obtain ⟨b, hb⟩ := exists_opening_of_value hd
  obtain ⟨ch, ys, hys, hch⟩ := exists_of_opening hb
  rw [Cursor.rest_skipSpace] at hys
  change (lead ++ xs).dropWhile Symbol.isSpace = _ at hys
  clear hv hd hb
  induction lead with
  | nil => exact nofun
  | cons s lead ih =>
    rw [List.forall_mem_cons] at hlead ⊢
    rw [List.cons_append, List.dropWhile_cons] at hys
    split_ifs at hys with hspace
    · exact ⟨hspace, ih hlead.2 hys⟩
    · -- what comes behind the spaces would be the blank
      obtain ⟨rfl, -⟩ := List.cons.inj hys
      exact absurd (hlead.1.symm.trans hch) nofun

end Json

end Catalogue
