import Catalogue.Proofs.Json.Written

/-!
# What the reader makes

Whatever text is read, the value that comes of it can be stored (`Catalogue.Json.Storable`): its
whole numbers fit a word of 64 bits, with or without a sign. And arrays and objects nest in it no
deeper than the reader goes. Both are invariants of the reader, and one lemma carries them through
the two loops (`Catalogue.Json.made_value`): what a loop keeps is what one turn of it keeps
(`Catalogue.Json.foldItems_keeps`, `Catalogue.Json.foldMembers_keeps`).
-/

namespace Catalogue

namespace Json

/-! ### Values that can be stored -/

/-- A value **can be stored** if its whole numbers fit 64 bits. No other value comes of a text. -/
inductive Storable : Json → Prop
  /-- The value `null`. -/
  | null : Storable .null
  /-- A truth value. -/
  | bool (b : Bool) : Storable (.bool b)
  /-- A whole number that fits. -/
  | integer {n : Int} (h : FitsWord n) : Storable (.integer n)
  /-- A floating-point number. -/
  | real (x : FiniteFloat) : Storable (.real x)
  /-- A string. -/
  | text (s : String) : Storable (.text s)
  /-- An array of values that can be stored. -/
  | array {items : List Json} (h : ∀ v ∈ items, Storable v) : Storable (.array items)
  /-- An object of values that can be stored. -/
  | object {members : List (String × Json)} (h : ∀ m ∈ members, Storable m.2) :
    Storable (.object members)

attribute [simp] Storable.null Storable.bool Storable.real Storable.text

@[simp] theorem storable_integer_iff {n : Int} : (integer n).Storable ↔ FitsWord n :=
  ⟨fun h => by cases h with | integer h => exact h, .integer⟩

@[simp] theorem storable_array_iff {items : List Json} :
    (array items).Storable ↔ ∀ v ∈ items, v.Storable :=
  ⟨fun h => by cases h with | array h => exact h, .array⟩

@[simp] theorem storable_object_iff {members : List (String × Json)} :
    (object members).Storable ↔ ∀ m ∈ members, m.2.Storable :=
  ⟨fun h => by cases h with | object h => exact h, .object⟩

/-- A value is **made** at a depth if it can be stored and nests no deeper. -/
structure Made (depth : Nat) (v : Json) : Prop where
  /-- It can be stored. -/
  storable : v.Storable
  /-- It nests no deeper. -/
  height : v.height ≤ depth

/-- An array is made of what is made one level further in. -/
theorem Made.array {depth : Nat} {items : List Json} (h : ∀ v ∈ items, Made depth v) :
    Made (depth + 1) (.array items) := by
  refine ⟨.array fun v hv => (h v hv).storable, ?_⟩
  rw [Json.height]
  exact Nat.succ_le_succ (itemsHeight_le_iff.mpr fun v hv => (h v hv).height)

/-- An object is made of what is made one level further in. -/
theorem Made.object {depth : Nat} {members : List (String × Json)}
    (h : ∀ m ∈ members, Made depth m.2) : Made (depth + 1) (.object members) := by
  refine ⟨.object fun m hm => (h m hm).storable, ?_⟩
  rw [Json.height]
  exact Nat.succ_le_succ (membersHeight_le_iff.mpr fun m hm => (h m hm).height)

/-! ### Numbers -/

namespace Figure

/-- Digits are read as far as they fit. -/
theorem fitting_lt {bound n : Nat} (h : n < bound) (ds : List Nat) :
    (fitting bound n ds).1 < bound := by
  induction ds generalizing n with
  | nil => exact h
  | cons d ds ih =>
    rw [fitting]
    split_ifs with hd
    · exact ih hd
    · exact h

theorem made_real? {negative : Bool} {significand : Nat} {exponent : Int} {v : Json}
    (h : real? negative significand exponent = some v) (depth : Nat) : Made depth v := by
  obtain ⟨x, -, hx⟩ := Option.bind_eq_some_iff.mp h
  obtain ⟨y, -, rfl⟩ := Option.map_eq_some_iff.mp hx
  exact ⟨.real y, Nat.zero_le _⟩

theorem made_wholeNumber {negative : Bool} {n : Nat} {v : Json} (hn : n < UInt64.size)
    (h : wholeNumber negative n = some v) (depth : Nat) : Made depth v := by
  rw [wholeNumber] at h
  split_ifs at h with hsign hhalf
  · obtain rfl := Option.some.inj h
    exact ⟨.integer ⟨by omega, by omega⟩, Nat.zero_le _⟩
  · obtain rfl := Option.some.inj h
    exact ⟨.integer ⟨by omega, by omega⟩, Nat.zero_le _⟩
  · exact made_real? h depth

/-- A number that may be too large is made if it is there. -/
theorem made_elim {number : Option Json} {shown : Nat} {v : Json} {depth : Nat}
    (hmade : ∀ w, number = some w → Made depth w)
    (h : number.elim (Except.error shown) .ok = .ok v) : Made depth v := by
  cases number with
  | none => exact nomatch h
  | some w =>
    obtain rfl := Except.ok.inj h
    exact hmade w rfl

/-- **The value of a number that is read can be stored.** -/
theorem made_value {f : Figure} {v : Json} (h : f.value = .ok v) (depth : Nat) : Made depth v := by
  have hreal : ∀ {significand : Nat} {exponent : Int} {negative : Bool} {shown : Nat},
      (real? negative significand exponent).elim (Except.error shown) .ok = .ok v → Made depth v :=
    made_elim fun _ hw => made_real? hw depth
  rw [value] at h
  dsimp only at h
  split_ifs at h with hwhole
  · exact made_elim (fun _ hw => made_wholeNumber (fitting_lt (by decide) _) hw depth) h
  · cases hexponent : f.exponent with
    | none =>
      simp only [hexponent] at h
      exact hreal h
    | some e =>
      obtain ⟨down, ds⟩ := e
      simp only [hexponent] at h
      split_ifs at h
      · exact hreal h
      · exact hreal h
      · exact hreal h

/-- A number behind its sign. -/
theorem made_readValue {negative : Bool} {c c' : Cursor} {v : Json}
    (h : readValue negative c = .ok (v, c')) (depth : Nat) : Made depth v := by
  rw [readValue] at h
  split at h
  · cases h
  · split at h
    · rename_i w hw
      cases h
      exact made_value hw depth
    · cases h

end Figure

/-! ### Openings -/

/-- A word is read as the value that it stands for, or not at all. -/
theorem eq_of_readWord {letters : List Char} {c c' : Cursor} {v w : Json}
    (h : readWord w letters c = .ok (v, c')) : v = w := by
  induction letters generalizing c with
  | nil =>
    rw [readWord] at h
    cases h
    rfl
  | cons l ls ih =>
    rw [readWord] at h
    split at h
    · split_ifs at h
      · exact ih h
      · cases h
    · rw [Cursor.refuse, Cursor.faultNext] at h
      cases h

theorem scalarOpening_eq_ok {r : Except Fault (Json × Cursor)} {v : Json} {c : Cursor}
    (h : scalarOpening r = .ok (.scalar v, c)) : r = .ok (v, c) := by
  cases r with
  | error f => cases h
  | ok a =>
    cases h
    rfl

/-- **A scalar that is read can be stored**, at any depth. -/
theorem made_opening {c c' : Cursor} {v : Json} (h : opening true c = .ok (.scalar v, c'))
    (depth : Nat) : Made depth v := by
  rw [opening] at h
  split at h
  · split_ifs at h
    · cases h
    · cases h
    · split at h
      · cases h
      · cases h
        exact ⟨.text _, Nat.zero_le _⟩
    · rw [eq_of_readWord (scalarOpening_eq_ok h)]
      exact ⟨.null, Nat.zero_le _⟩
    · rw [eq_of_readWord (scalarOpening_eq_ok h)]
      exact ⟨.bool _, Nat.zero_le _⟩
    · rw [eq_of_readWord (scalarOpening_eq_ok h)]
      exact ⟨.bool _, Nat.zero_le _⟩
    · exact Figure.made_readValue (scalarOpening_eq_ok h) depth
    · exact Figure.made_readValue (scalarOpening_eq_ok h) depth
    · rw [Cursor.faultNext] at h
      cases h
  · rw [Cursor.refuse, Cursor.faultNext] at h
    cases h

/-! ### Loops -/

section Loops

variable {σ : Type} {P : σ → Prop}

/-- **What one turn keeps, the loop over items keeps.** -/
theorem foldItems_keeps {read : σ → Reader σ}
    (hread : ∀ {out out' : σ} {c c' : Cursor}, P out → read out c = .ok (out', c') → P out')
    {fuel index : Nat} {out out' : σ} {c c' : Cursor} (hout : P out)
    (h : foldItems read fuel index out c = .ok (out', c')) : P out' := by
  induction fuel generalizing index out c with
  | zero => cases h
  | succ fuel ih =>
    rw [foldItems] at h
    split at h
    · cases h
    · cases h
      exact hout
    · split at h
      · cases h
      · rename_i hturn
        exact ih (hread hout hturn) h

/-- **What one turn keeps, the loop over members keeps.** -/
theorem foldMembers_keeps {refuse : String → σ → Option Mismatch} {read : String → σ → Reader σ}
    (hread : ∀ {key : String} {out out' : σ} {c c' : Cursor}, P out →
      read key out c = .ok (out', c') → P out')
    {fuel : Nat} {first : Bool} {out out' : σ} {c c' : Cursor} (hout : P out)
    (h : foldMembers refuse read fuel first out c = .ok (out', c')) : P out' := by
  induction fuel generalizing first out c with
  | zero => cases h
  | succ fuel ih =>
    rw [foldMembers] at h
    split at h
    · cases h
    · cases h
      exact hout
    · split at h
      · cases h
      · split at h
        · cases h
        · split at h
          · cases h
          · split at h
            · cases h
            · rename_i hturn
              exact ih (hread hout hturn) h

end Loops

/-! ### Values -/

theorem mem_insertMember {key : String} {value : Json} {members : List (String × Json)}
    {m : String × Json} (h : m ∈ insertMember key value members) :
    m = (key, value) ∨ m ∈ members := by
  induction members with
  | nil => exact .inl (List.mem_singleton.mp h)
  | cons member members ih =>
    rw [insertMember] at h
    split_ifs at h
    · exact (List.mem_cons.mp h).imp_right id
    · exact (List.mem_cons.mp h).imp_right fun hm => List.mem_cons_of_mem _ hm
    · rcases List.mem_cons.mp h with rfl | hm
      · exact .inr List.mem_cons_self
      · exact (ih hm).imp_right fun hm => List.mem_cons_of_mem _ hm

/-- **A value that is read at a depth is made at it.** -/
theorem made_value {fuel depth : Nat} {c c' : Cursor} {v : Json}
    (h : value fuel depth c = .ok (v, c')) : Made depth v := by
  induction depth generalizing c c' v with
  | zero =>
    rw [value] at h
    split at h
    · cases h
    · rename_i hopen
      cases h
      exact made_opening hopen 0
    · cases h
  | succ depth ih =>
    rw [value] at h
    split at h
    · cases h
    · rename_i hopen
      cases h
      exact made_opening hopen _
    · split at h
      · cases h
      · rename_i items c₁ hitems
        cases h
        have hmade : ∀ w ∈ items, Made depth w := by
          refine foldItems_keeps (P := fun out => ∀ w ∈ out, Made depth w) ?_ ?_ hitems
          · intro out out' c c' hout hturn
            split at hturn
            · cases hturn
            · rename_i hvalue
              cases hturn
              exact List.forall_mem_cons.mpr ⟨ih hvalue, hout⟩
          · exact fun w hw => absurd hw List.not_mem_nil
        exact .array fun w hw => hmade w (List.mem_reverse.mp hw)
    · split at h
      · cases h
      · rename_i members c₁ hmembers
        cases h
        refine .object (foldMembers_keeps (P := fun out => ∀ m ∈ out, Made depth m.2) ?_ ?_
          hmembers)
        · intro key out out' c c' hout hturn
          split at hturn
          · cases hturn
          · rename_i hvalue
            cases hturn
            intro m hm
            rcases mem_insertMember hm with rfl | hm
            · exact ih hvalue
            · exact hout m hm
        · exact fun m hm => absurd hm List.not_mem_nil

/-- **What a sequence of symbols is read as** can be stored, and nests no deeper than the reader
goes. -/
theorem made_ofSymbols? {symbols : List Symbol} {v : Json} (h : ofSymbols? symbols = .ok v) :
    Made depthLimit v := by
  rw [ofSymbols?] at h
  split at h
  · cases h
  · rename_i hvalue
    split at h
    · cases h
    · cases h
      exact made_value hvalue

/-- **What a text is read as** can be stored, and nests no deeper than the reader goes. -/
theorem made_ofText? {s : String} {v : Json} (h : ofText? s = .ok v) : Made depthLimit v :=
  made_ofSymbols? h

end Json

end Catalogue
