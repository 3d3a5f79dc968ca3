import Catalogue.Json.Reader
import Catalogue.Text.Blank
import Mathlib.Data.List.TakeWhile
import Mathlib.Tactic.SplitIfs

/-!
# Readers and blanks behind what they read

Symbols are others up to blanks (`Catalogue.Symbol.UpToBlanks`) if both begin with the same and only
then differ, in blanks. A reader that makes something of the ones makes the same of the others, and
leaves again what is the same up to blanks; it uses up at least as much
(`Catalogue.Json.Follows`). Here this is shown of strings, words and numbers, and of the openings of
values (`Catalogue.Json.opening_opensAlike`).

A reader that comes upon the blanks at the end does not get any further, as far as it does not pass
over spaces: no word and no number goes on with a blank, and a string that has come to them does not
end any more (`Catalogue.Json.stringBody_ne_ok`). The places reached are of no interest here.
-/

namespace Catalogue

/-! ### Blanks -/

namespace Symbol

/-- A space of JSON. -/
def isSpace : Symbol → Bool
  | .char c => Json.Cursor.isSpace c
  | .stray _ => false

/-- A blank character. -/
def isBlank : Symbol → Bool
  | .char c => Text.isBlank c
  | .stray _ => false

/-- The character that a symbol is shown as: a stray is shown as the replacement character. -/
def shown : Symbol → Char
  | .char c => c
  | .stray _ => Char.ofNat 0xFFFD

/-- The spaces of JSON are blank. -/
theorem isBlank_of_isSpace {s : Symbol} (h : s.isSpace = true) : s.isBlank = true := by
  cases s with
  | char c =>
    simp only [isSpace, Json.Cursor.isSpace, Bool.or_eq_true, decide_eq_true_eq] at h
    rcases h with ((rfl | rfl) | rfl) | rfl
    · rfl
    · rfl
    · rfl
    · rfl
  | stray n => cases h

/-- Symbols are others **up to blanks** at the end: both begin with the same, and then there are
blanks in the one, and spaces in the other. -/
inductive UpToBlanks : List Symbol → List Symbol → Prop where
  /-- Only blanks are left, and only spaces. -/
  | blank {xs ys : List Symbol} (hx : ∀ s ∈ xs, s.isBlank = true)
      (hy : ∀ s ∈ ys, s.isSpace = true) : UpToBlanks xs ys
  /-- Both begin with the same symbol. -/
  | cons (s : Symbol) {xs ys : List Symbol} (h : UpToBlanks xs ys) : UpToBlanks (s :: xs) (s :: ys)

variable {xs ys : List Symbol} {s : Symbol}

theorem upToBlanks_append (zs : List Symbol) (hx : ∀ s ∈ xs, s.isBlank = true)
    (hy : ∀ s ∈ ys, s.isSpace = true) : UpToBlanks (zs ++ xs) (zs ++ ys) := by
  induction zs with
  | nil => exact .blank hx hy
  | cons z zs ih => exact .cons z ih

namespace UpToBlanks

/-- What is not blank comes in both. -/
theorem of_cons (h : UpToBlanks (s :: xs) ys) (hs : s.isBlank = false) :
    ∃ ys', ys = s :: ys' ∧ UpToBlanks xs ys' := by
  cases h with
  | blank hx hy =>
    have hblank := hx s List.mem_cons_self
    rw [hs] at hblank
    cases hblank
  | cons s h => exact ⟨_, rfl, h⟩

/-- Either both begin with the same or there are only blanks. -/
theorem exists_cons (h : UpToBlanks xs ys) (hx : ∃ s ∈ xs, s.isBlank = false) :
    ∃ s xs' ys', xs = s :: xs' ∧ ys = s :: ys' ∧ UpToBlanks xs' ys' := by
  cases h with
  | blank hblank hy =>
    obtain ⟨s, hs, hnot⟩ := hx
    rw [hblank s hs] at hnot
    cases hnot
  | cons s h => exact ⟨s, _, _, rfl, rfl, h⟩

/-- Neither begins with what is not blank if the first does not. -/
theorem head?_ne (h : UpToBlanks xs ys) (hs : s.isBlank = false) (hx : xs.head? ≠ some s) :
    ys.head? ≠ some s := by
  cases h with
  | blank _ hy =>
    intro hhead
    have hspace := isBlank_of_isSpace (hy s (List.mem_of_head? hhead))
    rw [hs] at hspace
    cases hspace
  | cons s' h => exact hx

theorem tail (h : UpToBlanks xs ys) : UpToBlanks xs.tail ys.tail := by
  cases h with
  | blank hx hy =>
    exact .blank (fun s hs => hx s (List.mem_of_mem_tail hs))
      fun s hs => hy s (List.mem_of_mem_tail hs)
  | cons s h => exact h

theorem dropSpace (h : UpToBlanks xs ys) :
    UpToBlanks (xs.dropWhile isSpace) (ys.dropWhile isSpace) := by
  induction h with
  | blank hx hy =>
    exact .blank (fun s hs => hx s ((List.dropWhile_sublist _).subset hs))
      fun s hs => hy s ((List.dropWhile_sublist _).subset hs)
  | cons s h ih =>
    rw [List.dropWhile_cons, List.dropWhile_cons]
    split_ifs
    · exact ih
    · exact .cons s h

/-- If only spaces are left of the first, so it is of the second. -/
theorem forall_isSpace (h : UpToBlanks xs ys) (hx : ∀ s ∈ xs, s.isSpace = true) :
    ∀ s ∈ ys, s.isSpace = true := by
  induction h with
  | blank _ hy => exact hy
  | cons s h ih =>
    rw [List.forall_mem_cons] at hx ⊢
    exact ⟨hx.1, ih hx.2⟩

end UpToBlanks

end Symbol

namespace Json

open Catalogue.Symbol

/-! ### Cursors that stand alike -/

namespace Cursor

/-- Behind spaces there is the rest without the spaces at its front. -/
theorem rest_skipSpace (c : Cursor) : c.skipSpace.rest = c.rest.dropWhile Symbol.isSpace := by
  have hfrom : ∀ (xs : List Symbol) p, (skipSpaceFrom xs p).rest = xs.dropWhile Symbol.isSpace := by
    intro xs
    induction xs with
    | nil => exact fun _ => rfl
    | cons s xs ih =>
      intro p
      cases s with
      | char ch =>
        change (if isSpace ch then _ else _ : Cursor).rest = _
        rw [List.dropWhile_cons]
        by_cases hspace : isSpace ch = true
        · rw [if_pos hspace, if_pos (show (Symbol.char ch).isSpace = true from hspace)]
          exact ih _
        · rw [if_neg hspace, if_neg (show ¬(Symbol.char ch).isSpace = true from hspace)]
      | stray n => rfl
  exact hfrom c.rest c.position

/-- A rest that no symbol begins, whatever may follow it, does not have it at its head. -/
theorem head?_ne {c : Cursor} {s : Symbol} (h : ∀ xs, c.rest = s :: xs → False) :
    c.rest.head? ≠ some s := by
  intro hhead
  obtain ⟨xs, hxs⟩ := List.head?_eq_some_iff.mp hhead
  exact h xs hxs

theorem rest_advance (c : Cursor) : c.advance.rest = c.rest.tail := by
  obtain ⟨rest, p⟩ := c
  cases rest with
  | nil => rfl
  | cons s xs => rfl

/-- Two cursors stand **alike**, with at most `n` symbols left behind the second: what is left is
the same up to blanks. -/
structure Alike (n : Nat) (c c' : Cursor) : Prop where
  /-- What is left is the same up to blanks. -/
  rests : UpToBlanks c.rest c'.rest
  /-- So many symbols are left at most. -/
  length : c'.rest.length ≤ n

variable {n : Nat} {c c' : Cursor} {ch : Char} {xs : List Symbol}

theorem Alike.mono {m : Nat} (h : Alike m c c') (hmn : m ≤ n) : Alike n c c' :=
  ⟨h.rests, h.length.trans hmn⟩

/-- What is not blank is looked at by both or by none. -/
theorem Alike.head?_iff {s : Symbol} (h : Alike n c c') (hs : s.isBlank = false) :
    c.rest.head? = some s ↔ c'.rest.head? = some s := by
  refine ⟨fun hc => ?_, fun hc' => ?_⟩
  · obtain ⟨xs, hxs⟩ := List.head?_eq_some_iff.mp hc
    have hrests := h.rests
    rw [hxs] at hrests
    obtain ⟨ys, hys, -⟩ := hrests.of_cons hs
    rw [hys, List.head?_cons]
  · by_contra hc
    exact h.rests.head?_ne hs hc hc'

theorem Alike.skipSpace (h : Alike n c c') : Alike n c.skipSpace c'.skipSpace := by
  refine ⟨?_, ?_⟩
  · rw [rest_skipSpace, rest_skipSpace]
    exact h.rests.dropSpace
  · rw [rest_skipSpace]
    exact (List.dropWhile_sublist _).length_le.trans h.length

theorem Alike.advance (h : Alike n c c') : Alike n c.advance c'.advance := by
  refine ⟨?_, ?_⟩
  · rw [rest_advance, rest_advance]
    exact h.rests.tail
  · rw [rest_advance]
    exact (List.tail_sublist _).length_le.trans h.length

/-- Where one cursor looks at what is not blank, so does the other, and there is less behind it. -/
theorem Alike.at_cons {s : Symbol} (h : Alike n c c') (hc : c.rest = s :: xs)
    (hs : s.isBlank = false) :
    ∃ m ys, n = m + 1 ∧ c'.rest = s :: ys ∧ Alike m c.advance c'.advance := by
  have hrests := h.rests
  rw [hc] at hrests
  obtain ⟨ys, hys, htail⟩ := hrests.of_cons hs
  have hlength := h.length
  rw [hys, List.length_cons] at hlength
  obtain ⟨m, rfl⟩ : ∃ m, n = m + 1 := ⟨n - 1, by omega⟩
  refine ⟨m, ys, rfl, hys, ?_, ?_⟩
  · rw [rest_advance, rest_advance, hc, hys]
    exact htail
  · rw [rest_advance, hys]
    exact Nat.le_of_succ_le_succ hlength

end Cursor

/-- What one reader makes **follows** from what another makes: the same value, and cursors that
stand alike. -/
def Follows {α : Type} (n : Nat) (r r' : Except Fault (α × Cursor)) : Prop :=
  ∀ a d, r = .ok (a, d) → ∃ d', r' = .ok (a, d') ∧ d.Alike n d'

section Follows

variable {α : Type} {n m : Nat}

theorem Follows.error {f : Fault} {r' : Except Fault (α × Cursor)} : Follows n (.error f) r' :=
  nofun

theorem Follows.ok {c c' : Cursor} (h : c.Alike n c') (a : α) :
    Follows n (.ok (a, c)) (.ok (a, c')) := by
  rintro _ _ ⟨⟩
  exact ⟨c', rfl, h⟩

theorem Follows.mono {r r' : Except Fault (α × Cursor)} (h : Follows m r r') (hmn : m ≤ n) :
    Follows n r r' := by
  intro a d hd
  obtain ⟨d', hd', halike⟩ := h a d hd
  exact ⟨d', hd', halike.mono hmn⟩

/-- Either the one reader makes nothing, or both make the same. -/
theorem Follows.cases {r r' : Except Fault (α × Cursor)} (h : Follows n r r') :
    (∃ f, r = .error f) ∨ ∃ a d d', r = .ok (a, d) ∧ r' = .ok (a, d') ∧ d.Alike n d' := by
  rcases r with f | ⟨a, d⟩
  · exact .inl ⟨f, rfl⟩
  · obtain ⟨d', hd', halike⟩ := h a d rfl
    exact .inr ⟨a, d, d', rfl, hd', halike⟩

/-- What was read may be seen in another way. -/
theorem Follows.map {β : Type} {r r' : Except Fault (α × Cursor)} (h : Follows n r r')
    (f : α → β) : Follows n (r.map (Prod.map f id)) (r'.map (Prod.map f id)) := by
  rcases h.cases with ⟨e, rfl⟩ | ⟨a, d, d', rfl, rfl, halike⟩
  · exact .error
  · exact .ok halike (f a)

/-- Readers that look whether something that is not blank comes next. -/
theorem Follows.byHead {c c' : Cursor} {s : Symbol} {r₁ r₁' r₂ r₂' : Except Fault (α × Cursor)}
    (h : c.Alike m c') (hs : s.isBlank = false) (hyes : Follows n r₁ r₁') (hno : Follows n r₂ r₂') :
    Follows n (if c.rest.head? = some s then r₁ else r₂)
      (if c'.rest.head? = some s then r₁' else r₂') := by
  by_cases hhead : c.rest.head? = some s
  · rw [if_pos hhead, if_pos ((h.head?_iff hs).mp hhead)]
    exact hyes
  · rw [if_neg hhead, if_neg fun hhead' => hhead ((h.head?_iff hs).mpr hhead')]
    exact hno

end Follows

/-! ### Strings and words -/

/-- Behind a backslash. -/
theorem stringBody_letter (strict : Bool) (out : List Char) (tail : Option Nat) (s : Symbol)
    (rest : List Symbol) (p : Position) :
    stringBody strict .letter out tail (s :: rest) p =
      if s.shown = 'u' then stringBody strict (.digits none 4 (some 0)) out tail rest (p.after s)
      else
        match escapeLetter? s.shown with
        | some d =>
          stringBody strict .outside (d :: out) (tail.map (· + d.utf8Size)) rest (p.after s)
        | none => .error (.malformed .badEscape (p.into s 1)) := by
  cases s with
  | char c => rfl
  | stray n => rfl

/-- Inside the digits of a code unit. -/
theorem stringBody_digit (strict : Bool) (high : Option Nat) (owed : Nat) (value : Option Nat)
    (out : List Char) (tail : Option Nat) (s : Symbol) (rest : List Symbol) (p : Position) :
    stringBody strict (.digits high owed value) out tail (s :: rest) p =
      if s.size < owed then
        stringBody strict (.digits high (owed - s.size)
          (value.bind fun n => (hexValue? s.shown).map fun d => n * 16 + d)) out tail rest
          (p.after s)
      else
        match value.bind fun n => (hexValue? s.shown).map fun d => n * 16 + d with
        | none => .error (.malformed .badEscape (p.into s owed))
        | some n =>
          if !strict then stringBody strict .outside (s.shown :: out) tail rest (p.after s)
          else
            match unit16 high n with
            | .char d =>
              stringBody strict .outside (d :: out) (tail.map (· + d.utf8Size)) rest (p.after s)
            | .high n => stringBody strict (.half n) out tail rest (p.after s)
            | .lone => .error (.malformed .loneSurrogate (p.after s)) := by
  cases s with
  | char c => rfl
  | stray n => rfl

/-- **One symbol of a string**: it is refused, it ends the string, or the string goes on. What is
behind it does not matter, and neither does the place. -/
theorem stringBody_cons (strict : Bool) (e : Escape) (out : List Char) (tail : Option Nat)
    (s : Symbol) :
    (∀ rest p, ∃ f, stringBody strict e out tail (s :: rest) p = .error f) ∨
    (∃ text, s = .char '"' ∧ ∀ rest p,
      stringBody strict e out tail (s :: rest) p = .ok (text, ⟨rest, p.after s⟩)) ∨
    ∃ e' out' tail', ∀ rest p,
      stringBody strict e out tail (s :: rest) p =
        stringBody strict e' out' tail' rest (p.after s) := by
  -- what a symbol does depends on the escape that it stands in
  cases e with
  | outside =>
    cases s with
    | stray n => exact .inr (.inr ⟨_, _, _, fun _ _ => rfl⟩)
    | char c =>
      by_cases hquote : c = '"'
      · subst hquote
        cases tail with
        | none => exact .inr (.inl ⟨_, rfl, fun _ _ => rfl⟩)
        | some n =>
          cases strict with
          | true => exact .inl fun _ _ => ⟨_, rfl⟩
          | false => exact .inr (.inl ⟨_, rfl, fun _ _ => rfl⟩)
      · by_cases hslash : c = '\\'
        · exact .inr (.inr ⟨_, _, _, fun _ _ => (if_neg hquote).trans (if_pos hslash)⟩)
        · by_cases hcontrol : c.toNat < 0x20
          · exact .inl fun _ _ =>
              ⟨_, (if_neg hquote).trans ((if_neg hslash).trans (if_pos hcontrol))⟩
          · exact .inr (.inr ⟨_, _, _, fun _ _ =>
              (if_neg hquote).trans ((if_neg hslash).trans (if_neg hcontrol))⟩)
  | letter =>
    simp only [stringBody_letter]
    by_cases hu : s.shown = 'u'
    · simp only [if_pos hu]
      exact .inr (.inr ⟨_, _, _, fun _ _ => rfl⟩)
    · simp only [if_neg hu]
      cases escapeLetter? s.shown with
      | none => exact .inl fun _ _ => ⟨_, rfl⟩
      | some d => exact .inr (.inr ⟨_, _, _, fun _ _ => rfl⟩)
  | digits high owed value =>
    simp only [stringBody_digit]
    by_cases hsize : s.size < owed
    · simp only [if_pos hsize]
      exact .inr (.inr ⟨_, _, _, fun _ _ => rfl⟩)
    · simp only [if_neg hsize]
      cases value.bind fun n => (hexValue? s.shown).map fun d => n * 16 + d with
      | none => exact .inl fun _ _ => ⟨_, rfl⟩
      | some n =>
        cases strict with
        | false => exact .inr (.inr ⟨_, _, _, fun _ _ => rfl⟩)
        | true =>
          dsimp only
          cases unit16 high n with
          | char d => exact .inr (.inr ⟨_, _, _, fun _ _ => rfl⟩)
          | high m => exact .inr (.inr ⟨_, _, _, fun _ _ => rfl⟩)
          | lone => exact .inl fun _ _ => ⟨_, rfl⟩
  | half high =>
    by_cases hslash : s.shown = '\\'
    · exact .inr (.inr ⟨_, _, _, fun _ _ => if_pos hslash⟩)
    · exact .inl fun _ _ => ⟨_, if_neg hslash⟩
  | halfLetter high =>
    by_cases hu : s.shown = 'u'
    · exact .inr (.inr ⟨_, _, _, fun _ _ => if_pos hu⟩)
    · exact .inl fun _ _ => ⟨_, if_neg hu⟩

/-- Blanks alone end no string. -/
theorem stringBody_ne_ok {strict : Bool} {e : Escape} {out : List Char} {tail : Option Nat}
    {xs : List Symbol} (hx : ∀ s ∈ xs, s.isBlank = true) (p : Position) (a : String × Cursor) :
    stringBody strict e out tail xs p ≠ .ok a := by
  induction xs generalizing e out tail p with
  | nil => exact nofun
  | cons s xs ih =>
    rw [List.forall_mem_cons] at hx
    rcases stringBody_cons strict e out tail s with hfault | ⟨text, rfl, -⟩ | ⟨e', out', tail', hon⟩
    · obtain ⟨f, hf⟩ := hfault xs p
      rw [hf]
      exact nofun
    · cases hx.1
    · rw [hon]
      exact ih hx.2 _

/-- Strings up to blanks. -/
theorem stringBody_follows {strict : Bool} {e : Escape} {out : List Char} {tail : Option Nat}
    {xs ys : List Symbol} (h : UpToBlanks xs ys) {n : Nat} (hn : ys.length ≤ n) (p q : Position) :
    Follows n (stringBody strict e out tail xs p) (stringBody strict e out tail ys q) := by
  induction h generalizing e out tail p q with
  -- among the blanks the first reader makes nothing, so there is nothing to follow
  | blank hx hy => exact fun a d hd => absurd hd (stringBody_ne_ok hx p (a, d))
  | @cons s xs ys h ih =>
    have hys : ys.length ≤ n := Nat.le_of_succ_le hn
    rcases stringBody_cons strict e out tail s with
      hfault | ⟨text, -, hend⟩ | ⟨e', out', tail', hon⟩
    · obtain ⟨f, hf⟩ := hfault xs p
      rw [hf]
      exact .error
    · rw [hend, hend]
      exact .ok ⟨h, hys⟩ text
    · rw [hon, hon]
      exact ih hys _ _

variable {n : Nat} {c c' : Cursor}

theorem readString_follows (strict : Bool) (h : c.Alike n c') :
    Follows n (readString strict c) (readString strict c') :=
  stringBody_follows h.rests h.length _ _

/-- A word is read letter by letter. -/
theorem readWord_cons (v : Json) (l : Char) (ls : List Char) (c : Cursor) :
    ∃ f, readWord v (l :: ls) c =
      if c.rest.head? = some (.char l) then readWord v ls c.advance else .error f := by
  rw [readWord]
  split
  · rename_i d xs hrest
    rw [hrest, List.head?_cons]
    simp only [Option.some.injEq, Symbol.char.injEq]
    exact ⟨_, rfl⟩
  · rename_i hrest
    exact ⟨_, (if_neg (Cursor.head?_ne (hrest l))).symm⟩

/-- Words, the letters of which are not blank. -/
theorem readWord_follows (v : Json) {letters : List Char}
    (hletters : letters.any Text.isBlank = false) (h : c.Alike n c') :
    Follows n (readWord v letters c) (readWord v letters c') := by
  induction letters generalizing c c' with
  | nil => exact .ok h v
  | cons l ls ih =>
    rw [List.any_cons, Bool.or_eq_false_iff] at hletters
    obtain ⟨f, hf⟩ := readWord_cons v l ls c
    obtain ⟨f', hf'⟩ := readWord_cons v l ls c'
    rw [hf, hf']
    exact .byHead h hletters.1 (ih hletters.2 h.advance) .error

/-! ### Numbers -/

/-- A digit is not blank. -/
theorem isBlank_of_digit? {ch : Char} {d : Nat} (h : Cursor.digit? ch = some d) :
    Text.isBlank ch = false := by
  rw [Cursor.digit?] at h
  split_ifs at h with hdigit
  have hlow : 48 ≤ ch.toNat := hdigit.1
  have hhigh : ch.toNat ≤ 57 := hdigit.2
  simp only [Text.isBlank, Text.inRanges, Text.blankRanges, List.any_cons, List.any_nil,
    Bool.or_false, Bool.or_eq_false_iff, Bool.and_eq_false_iff, decide_eq_false_iff_not]
  omega

/-- As many symbols are passed over as there are digits. -/
theorem length_digitsFrom (ds : List Nat) (xs : List Symbol) (p : Position) :
    (Cursor.digitsFrom ds xs p).1.length + (Cursor.digitsFrom ds xs p).2.rest.length =
      ds.length + xs.length := by
  induction xs generalizing ds p with
  | nil => simp [Cursor.digitsFrom]
  | cons s xs ih =>
    cases s with
    | stray n => simp [Cursor.digitsFrom]
    | char ch =>
      rw [Cursor.digitsFrom]
      cases hd : Cursor.digit? ch with
      | none => simp
      | some d =>
        dsimp only
        rw [ih, List.length_cons, List.length_cons]
        omega

/-- Among blanks there is no digit. -/
theorem digitsFrom_of_blank {xs : List Symbol} (hx : ∀ s ∈ xs, s.isBlank = true) (ds : List Nat)
    (p : Position) : Cursor.digitsFrom ds xs p = (ds.reverse, ⟨xs, p⟩) := by
  cases xs with
  | nil => rfl
  | cons s xs =>
    cases s with
    | stray n => rfl
    | char ch =>
      have hblank : Text.isBlank ch = true := hx _ List.mem_cons_self
      rw [Cursor.digitsFrom]
      cases hd : Cursor.digit? ch with
      | none => rfl
      | some d =>
        rw [isBlank_of_digit? hd] at hblank
        cases hblank

/-- Digits up to blanks. -/
theorem digitsFrom_upToBlanks {xs ys : List Symbol} (h : UpToBlanks xs ys) (ds : List Nat)
    (p q : Position) :
    (Cursor.digitsFrom ds xs p).1 = (Cursor.digitsFrom ds ys q).1 ∧
      UpToBlanks (Cursor.digitsFrom ds xs p).2.rest (Cursor.digitsFrom ds ys q).2.rest := by
  induction h generalizing ds p q with
  | blank hx hy =>
    rw [digitsFrom_of_blank hx, digitsFrom_of_blank fun s hs => isBlank_of_isSpace (hy s hs)]
    exact ⟨rfl, .blank hx hy⟩
  | cons s h ih =>
    cases s with
    | stray n => exact ⟨rfl, .cons _ h⟩
    | char ch =>
      rw [Cursor.digitsFrom, Cursor.digitsFrom]
      cases hd : Cursor.digit? ch with
      | none => exact ⟨rfl, .cons _ h⟩
      | some d => exact ih _ _ _

/-- Cursors that stand alike find the same digits, and stand alike behind them. -/
theorem exists_digits (h : c.Alike n c') :
    ∃ ds d d', c.digits = (ds, d) ∧ c'.digits = (ds, d') ∧ d.Alike (n - ds.length) d' := by
  obtain ⟨heq, hrests⟩ := digitsFrom_upToBlanks h.rests [] c.position c'.position
  have hlength := length_digitsFrom [] c'.rest c'.position
  have hn := h.length
  refine ⟨c'.digits.1, c.digits.2, c'.digits.2, Prod.ext heq rfl, rfl, hrests, ?_⟩
  rw [List.length_nil] at hlength
  change c'.digits.1.length + c'.digits.2.rest.length = _ at hlength
  omega

namespace Figure

/-- Digits, of which there is at least one. -/
theorem someDigits_follows (atEnd : Malformation) (h : c.Alike n c') :
    Follows n (someDigits atEnd c) (someDigits atEnd c') := by
  obtain ⟨ds, d, d', hc, hc', halike⟩ := exists_digits h
  rw [someDigits, someDigits, hc, hc']
  cases ds with
  | nil => exact .error
  | cons d₁ ds => exact .ok (halike.mono (Nat.sub_le ..)) _

/-- The digits before the point, which use up at least one symbol. -/
theorem readWhole_follows (atEnd : Malformation) (h : c.Alike (n + 1) c') :
    Follows n (readWhole atEnd c) (readWhole atEnd c') := by
  obtain ⟨ds, d, d', hc, hc', halike⟩ := exists_digits h
  rw [readWhole, readWhole, hc, hc']
  -- a zero stands alone, and other digits may come behind any other
  match ds with
  | [] => exact .error
  | 0 :: _ :: _ => exact .error
  | [0] => exact .ok halike _
  | (_ + 1) :: ds =>
    refine .ok (halike.mono ?_) _
    rw [List.length_cons]
    omega

theorem readFraction_eq (atEnd : Malformation) (c : Cursor) :
    readFraction atEnd c =
      if c.rest.head? = some (.char '.') then someDigits atEnd c.advance else .ok ([], c) := by
  rw [readFraction]
  split
  · rename_i xs hrest
    rw [hrest, List.head?_cons, if_pos rfl]
  · rename_i hrest
    rw [if_neg (Cursor.head?_ne hrest)]

theorem readFraction_follows (atEnd : Malformation) (h : c.Alike n c') :
    Follows n (readFraction atEnd c) (readFraction atEnd c') := by
  rw [readFraction_eq, readFraction_eq]
  exact .byHead h (by decide) (someDigits_follows atEnd h.advance) (.ok h _)

theorem readSign_eq (c : Cursor) :
    readSign c =
      if c.rest.head? = some (.char '+') then (false, c.advance)
      else if c.rest.head? = some (.char '-') then (true, c.advance)
      else (false, c) := by
  rw [readSign]
  split
  · rename_i xs hrest
    rw [hrest, List.head?_cons, if_pos rfl]
  · rename_i xs hrest
    rw [hrest, List.head?_cons, if_neg (by decide), if_pos rfl]
  · rename_i hplus hminus
    rw [if_neg (Cursor.head?_ne hplus), if_neg (Cursor.head?_ne hminus)]

/-- The sign of an exponent is the same, and the cursors stand alike behind it. -/
theorem exists_readSign (h : c.Alike n c') :
    ∃ down d d', readSign c = (down, d) ∧ readSign c' = (down, d') ∧ d.Alike n d' := by
  have hplus := h.head?_iff (s := .char '+') (by decide)
  have hminus := h.head?_iff (s := .char '-') (by decide)
  simp only [readSign_eq, hplus, hminus]
  split_ifs
  · exact ⟨_, _, _, rfl, rfl, h.advance⟩
  · exact ⟨_, _, _, rfl, rfl, h.advance⟩
  · exact ⟨_, _, _, rfl, rfl, h⟩

/-- An exponent begins with its letter, and perhaps with a sign. -/
theorem readExponent_eq (atEnd : Malformation) (c : Cursor) :
    readExponent atEnd c =
      if c.rest.head? = some (.char 'e') ∨ c.rest.head? = some (.char 'E') then
        match someDigits atEnd (readSign c.advance).2 with
        | .error f => .error f
        | .ok (ds, d) => .ok (some ((readSign c.advance).1, ds), d)
      else .ok (none, c) := by
  rw [readExponent]
  split
  · rename_i e xs hrest
    refine if_congr ?_ rfl rfl
    rw [hrest, List.head?_cons, Option.some.injEq, Option.some.injEq, Symbol.char.injEq,
      Symbol.char.injEq]
  · rename_i hrest
    rw [if_neg (not_or.mpr ⟨Cursor.head?_ne (hrest 'e'), Cursor.head?_ne (hrest 'E')⟩)]

theorem readExponent_follows (atEnd : Malformation) (h : c.Alike n c') :
    Follows n (readExponent atEnd c) (readExponent atEnd c') := by
  obtain ⟨down, d, d', hd, hd', halike⟩ := exists_readSign h.advance
  have hlower := h.head?_iff (s := .char 'e') (by decide)
  have hupper := h.head?_iff (s := .char 'E') (by decide)
  simp only [readExponent_eq, hd, hd', hlower, hupper]
  split_ifs
  · rcases (someDigits_follows atEnd halike).cases with ⟨f, hf⟩ | ⟨ds, e, e', he, he', hends⟩
    · rw [hf]
      exact .error
    · rw [he, he']
      exact .ok hends _
  · exact .ok h _

theorem read_follows (atEnd : Malformation) (negative : Bool) (h : c.Alike (n + 1) c') :
    Follows n (read atEnd negative c) (read atEnd negative c') := by
  rw [read, read]
  rcases (readWhole_follows atEnd h).cases with ⟨f, hf⟩ | ⟨whole, d, d', hd, hd', hwhole⟩
  · rw [hf]
    exact .error
  · rw [hd, hd']
    dsimp only
    rcases (readFraction_follows atEnd hwhole).cases with
      ⟨f, hf⟩ | ⟨fraction, e, e', he, he', hfraction⟩
    · rw [hf]
      exact .error
    · rw [he, he']
      dsimp only
      rcases (readExponent_follows atEnd hfraction).cases with
        ⟨f, hf⟩ | ⟨exponent, i, i', hi, hi', halike⟩
      · rw [hf]
        exact .error
      · rw [hi, hi']
        exact .ok halike _

/-- A number behind its sign, which uses up at least one symbol. -/
theorem readValue_follows (negative : Bool) (h : c.Alike (n + 1) c') :
    Follows n (readValue negative c) (readValue negative c') := by
  rw [readValue, readValue]
  rcases (read_follows .endInValue negative h).cases with ⟨f, hf⟩ | ⟨f, d, d', hd, hd', halike⟩
  · rw [hf]
    exact .error
  · rw [hd, hd']
    dsimp only
    cases f.value with
    | ok v => exact .ok halike v
    | error shown => exact .error

end Figure

/-! ### Openings -/

/-- Where a reader stands behind an opening: behind all of a scalar, or behind a bracket. -/
def Opening.behind : Opening → Cursor → Cursor
  | .scalar _, c => c
  | _, c => c.advance

/-- A value begins with a character that is not blank. -/
theorem exists_of_opening {strict : Bool} {o : Opening} {d : Cursor}
    (h : opening strict c = .ok (o, d)) :
    ∃ ch xs, c.skipSpace.rest = .char ch :: xs ∧ Text.isBlank ch = false := by
  rw [opening] at h
  split at h
  · rename_i ch xs hrest
    refine ⟨ch, xs, hrest, ?_⟩
    split_ifs at h with harray hobject hquote hnull htrue hfalse hminus hdigit
    · subst harray; decide
    · subst hobject; decide
    · subst hquote; decide
    · subst hnull; decide
    · subst htrue; decide
    · subst hfalse; decide
    · subst hminus; decide
    · obtain ⟨d, hd⟩ := Option.isSome_iff_exists.mp hdigit
      exact isBlank_of_digit? hd
    · cases h
  · cases h

/-- A number behind its sign, which uses up at least one symbol. -/
theorem readNumber_follows (strict negative : Bool) (h : c.Alike (n + 1) c') :
    Follows n (readNumber strict negative c) (readNumber strict negative c') := by
  cases strict with
  | true => exact Figure.readValue_follows negative h
  | false =>
    rw [readNumber, readNumber, if_neg Bool.false_ne_true, if_neg Bool.false_ne_true]
    rcases (Figure.read_follows .badNumber negative h).cases with
      ⟨f, hf⟩ | ⟨f, d, d', hd, hd', halike⟩
    · rw [hf]
      exact .error
    · rw [hd, hd']
      exact .ok halike _

/-- Openings, with which at least one symbol is used up. -/
def OpensAlike (n : Nat) (r r' : Except Fault (Opening × Cursor)) : Prop :=
  ∀ o d, r = .ok (o, d) → ∃ d', r' = .ok (o, d') ∧ (o.behind d).Alike n (o.behind d')

theorem opensAlike_scalar {r r' : Except Fault (Json × Cursor)} (h : Follows n r r') :
    OpensAlike n (scalarOpening r) (scalarOpening r') := by
  rcases r with f | ⟨v, d⟩
  · exact nofun
  · obtain ⟨d', rfl, halike⟩ := h v d rfl
    rintro _ _ ⟨⟩
    exact ⟨d', rfl, halike⟩

/-- **Openings are alike.** -/
theorem opening_opensAlike (strict : Bool) (h : c.Alike (n + 1) c') :
    OpensAlike n (opening strict c) (opening strict c') := by
  intro o d hopen
  obtain ⟨ch, xs, hxs, hblank⟩ := exists_of_opening hopen
  obtain ⟨m, ys, hm, hys, hadvance⟩ := h.skipSpace.at_cons hxs hblank
  obtain rfl : n = m := Nat.succ.inj hm
  have hmore : c.skipSpace.advance.Alike (n + 1) c'.skipSpace.advance :=
    hadvance.mono (Nat.le_succ n)
  revert o d
  change OpensAlike n _ _
  simp only [opening, hxs, hys]
  -- the first character decides which reader goes on
  split_ifs
  · rintro _ _ ⟨⟩
    exact ⟨_, rfl, hadvance⟩
  · rintro _ _ ⟨⟩
    exact ⟨_, rfl, hadvance⟩
  · rcases (readString_follows strict hadvance).cases with ⟨f, hf⟩ | ⟨text, d, d', hd, hd', halike⟩
    · rw [hf]
      exact nofun
    · rw [hd, hd']
      rintro _ _ ⟨⟩
      exact ⟨_, rfl, halike⟩
  · exact opensAlike_scalar (readWord_follows _ rfl hadvance)
  · exact opensAlike_scalar (readWord_follows _ rfl hadvance)
  · exact opensAlike_scalar (readWord_follows _ rfl hadvance)
  · exact opensAlike_scalar (readNumber_follows strict true hmore)
  · exact opensAlike_scalar (readNumber_follows strict false h.skipSpace)
  · exact nofun

end Json

end Catalogue
