import Catalogue.Json.Printer
import Catalogue.Json.Reader
import Mathlib.Tactic.SplitIfs

/-!
# Written strings and whole numbers are read back

What the printer writes for a string or a whole number is read as that string or that number. What
is read is written characters with something behind them; `Catalogue.Json.Reads` says that a reader
takes the characters, makes a value of them and leaves the rest. The place reached is of no interest
here.

A string ends at its quote, so that anything may follow it. A number ends where its digits do, and
so it matters that nothing but a comma or a closing bracket follows a value
(`Catalogue.Json.Closed`).
-/

namespace Catalogue

namespace Json

/-! ### Reading what is written -/

/-- Written characters as symbols. -/
def written (cs : List Char) : List Symbol := cs.map .char

@[simp] theorem written_nil : written [] = [] := rfl

@[simp] theorem written_cons (c : Char) (cs : List Char) :
    written (c :: cs) = .char c :: written cs := rfl

@[simp] theorem written_append (cs ds : List Char) :
    written (cs ++ ds) = written cs ++ written ds := List.map_append

/-- What may **follow a value** in a compact text. -/
inductive Closed : List Symbol → Prop
  /-- The text may end. -/
  | nil : Closed []
  /-- Another item or member may come. -/
  | comma (rest : List Symbol) : Closed (.char ',' :: rest)
  /-- An array may end. -/
  | bracket (rest : List Symbol) : Closed (.char ']' :: rest)
  /-- An object may end. -/
  | brace (rest : List Symbol) : Closed (.char '\x7d' :: rest)

/-- A reader **reads** written characters as a value, and leaves what follows them. -/
def Reads {α : Type} (read : Reader α) (text : List Char) (a : α) : Prop :=
  ∀ rest p, Closed rest → ∃ q, read ⟨written text ++ rest, p⟩ = .ok (a, ⟨rest, q⟩)

/-- Where no space stands none is passed over. -/
theorem skipSpace_eq_self {c : Char} (h : Cursor.isSpace c = false) (rest : List Symbol)
    (p : Position) : Cursor.skipSpace ⟨.char c :: rest, p⟩ = ⟨.char c :: rest, p⟩ := by
  simp only [Cursor.skipSpace, Cursor.skipSpaceFrom, h, Bool.false_eq_true, if_false]

@[simp] theorem advance_cons (s : Symbol) (rest : List Symbol) (p : Position) :
    Cursor.advance ⟨s :: rest, p⟩ = ⟨rest, p.after s⟩ := rfl

/-! ### Strings -/

theorem hexValue?_hexDigit {d : Nat} (h : d < 16) : hexValue? (Text.hexDigit d) = some d := by
  revert d
  decide

theorem utf8Size_hexDigit {d : Nat} (h : d < 16) : (Text.hexDigit d).utf8Size = 1 := by
  revert d
  decide

/-- The four digits of a control character are read as that character. -/
theorem stringBody_digits {n : Nat} (h : n < 0x20) (out : List Char) (rest : List Symbol)
    (p : Position) :
    ∃ q, stringBody true (.digits none 4 (some 0)) out none
        (written ['0', '0', Text.hexDigit (n / 16), Text.hexDigit (n % 16)] ++ rest) p =
      stringBody true .outside (Char.ofNat n :: out) none rest q := by
  have hhigh : n / 16 < 16 := by omega
  have hlow : n % 16 < 16 := Nat.mod_lt n (by decide)
  have hzero : hexValue? '0' = some 0 := by decide
  have hsize : ('0' : Char).utf8Size = 1 := by decide
  have hunit : unit16 none n = .char (Char.ofNat n) := by
    rw [unit16, if_neg (by omega), if_neg (by omega)]
  have hvalue : n / 16 * 16 + n % 16 = n := by omega
  simp only [written_cons, written_nil, List.cons_append, List.nil_append, stringBody, Symbol.size,
    hsize, hzero, utf8Size_hexDigit hhigh, utf8Size_hexDigit hlow, hexValue?_hexDigit hhigh,
    hexValue?_hexDigit hlow, Option.bind_some, Option.map_some, Option.map_none, Nat.reduceLT,
    Nat.reduceSub, Nat.reduceMul, Nat.zero_add, Nat.add_zero, if_true, if_false, hvalue, hunit,
    Nat.lt_irrefl, Bool.not_true, Bool.false_eq_true]
  exact ⟨_, rfl⟩

/-- **A written character is read back.** -/
theorem stringBody_escapeChar (c : Char) (out : List Char) (rest : List Symbol) (p : Position) :
    ∃ q, stringBody true .outside out none (written (escapeChar c) ++ rest) p =
      stringBody true .outside (c :: out) none rest q := by
  rw [escapeChar]
  split_ifs with hquote hslash hcontrol hback htab hline hfeed hreturn
  · subst hquote
    exact ⟨_, rfl⟩
  · subst hslash
    exact ⟨_, rfl⟩
  · obtain rfl : c = Char.ofNat 0x08 := by rw [← hback, Char.ofNat_toNat]
    exact ⟨_, rfl⟩
  · subst htab
    exact ⟨_, rfl⟩
  · subst hline
    exact ⟨_, rfl⟩
  · obtain rfl : c = Char.ofNat 0x0C := by rw [← hfeed, Char.ofNat_toNat]
    exact ⟨_, rfl⟩
  · subst hreturn
    exact ⟨_, rfl⟩
  · -- every other control character is written by its number
    have hopen : ∀ rest, stringBody true .outside out none (.char '\\' :: .char 'u' :: rest) p =
      stringBody true (.digits none 4 (some 0)) out none rest
        ((p.after (.char '\\')).after (.char 'u')) := fun _ => rfl
    rw [written_cons, written_cons, List.cons_append, List.cons_append, hopen]
    have hdigits := stringBody_digits hcontrol out rest
      ((p.after (.char '\\')).after (.char 'u'))
    rwa [Char.ofNat_toNat] at hdigits
  · simp only [written_cons, written_nil, List.cons_append, List.nil_append, stringBody, hquote,
      hslash, hcontrol, if_false, Option.map_none]
    exact ⟨_, rfl⟩

/-- A written string is read back, whatever follows its quote. -/
theorem readString_stringChars (s : String) (rest : List Symbol) (p : Position) :
    ∃ q, readString true ⟨written (s.toList.flatMap escapeChar ++ ['"']) ++ rest, p⟩ =
      .ok (s, ⟨rest, q⟩) := by
  have hbody : ∀ (cs out : List Char) (p : Position),
      ∃ q, stringBody true .outside out none (written (cs.flatMap escapeChar ++ ['"']) ++ rest) p =
        .ok (String.ofList (out.reverse ++ cs), ⟨rest, q⟩) := by
    intro cs
    induction cs with
    | nil =>
      intro out p
      simp [stringBody]
    | cons c cs ih =>
      intro out p
      rw [List.flatMap_cons, List.append_assoc, written_append, List.append_assoc]
      obtain ⟨q, hq⟩ := stringBody_escapeChar c out
        (written (cs.flatMap escapeChar ++ ['"']) ++ rest) p
      rw [hq]
      simpa using ih (c :: out) q
  simpa [readString] using hbody s.toList [] p

/-! ### Digits -/

/-- The value of a digit, of a character that is one. -/
def digitValue (c : Char) : Nat := c.toNat - '0'.toNat

theorem ne_of_isDigit {c d : Char} (h : c.isDigit = true) (hd : d.isDigit = false) : c ≠ d := by
  rintro rfl
  exact absurd h (by rw [hd]; decide)

theorem isSpace_of_isDigit {c : Char} (h : c.isDigit = true) : Cursor.isSpace c = false := by
  simp [Cursor.isSpace, ne_of_isDigit h (d := ' ') rfl, ne_of_isDigit h (d := '\n') rfl,
    ne_of_isDigit h (d := '\t') rfl, ne_of_isDigit h (d := '\r') rfl]

/-- The digits of a number begin with a digit. -/
theorem exists_toDigits_eq_cons (m : Nat) :
    ∃ c cs, Nat.toDigits 10 m = c :: cs ∧ c.isDigit = true := by
  obtain ⟨c, cs, hcs⟩ := List.exists_cons_of_ne_nil (Nat.toDigits_ne_nil (n := m) (b := 10))
  refine ⟨c, cs, hcs, Nat.isDigit_of_mem_toDigits (b := 10) (n := m) (by decide) (by decide) ?_⟩
  rw [hcs]
  exact List.mem_cons_self

theorem digit?_of_isDigit {c : Char} (h : c.isDigit = true) :
    Cursor.digit? c = some (digitValue c) := by
  rw [Char.isDigit, Bool.and_eq_true, decide_eq_true_eq, decide_eq_true_eq] at h
  exact if_pos h

/-- All digits are read, and no more than those. -/
theorem digitsFrom_written {rest : List Symbol} (hrest : Closed rest) {cs : List Char}
    (h : ∀ c ∈ cs, c.isDigit = true) (ds : List Nat) (p : Position) :
    ∃ q, Cursor.digitsFrom ds (written cs ++ rest) p =
      (ds.reverse ++ cs.map digitValue, ⟨rest, q⟩) := by
  induction cs generalizing ds p with
  | nil =>
    refine ⟨p, ?_⟩
    rw [List.map_nil, List.append_nil]
    cases hrest <;> rfl
  | cons c cs ih =>
    obtain ⟨q, hq⟩ := ih (fun d hd => h d (List.mem_cons_of_mem _ hd)) (digitValue c :: ds)
      (p.after (.char c))
    refine ⟨q, ?_⟩
    have hc := digit?_of_isDigit (h c List.mem_cons_self)
    rw [written_cons, List.cons_append, Cursor.digitsFrom, hc]
    simpa using hq

/-- A number other than zero does not begin with a zero. -/
theorem toDigits_eq_cons {m : Nat} (h : 0 < m) :
    ∃ c cs, Nat.toDigits 10 m = c :: cs ∧ digitValue c ≠ 0 := by
  induction m using Nat.strongRecOn with
  | _ m ih =>
    rw [Nat.toDigits_eq_if (by decide)]
    split_ifs with hsmall
    · refine ⟨_, _, rfl, ?_⟩
      have hdigit : ∀ d < 10, 0 < d → digitValue d.digitChar ≠ 0 := by decide
      exact hdigit m hsmall h
    · obtain ⟨c, cs, hcs, hc⟩ := ih (m / 10) (by omega) (by omega)
      exact ⟨c, cs ++ [(m % 10).digitChar], by rw [hcs, List.cons_append], hc⟩

/-- **The digits of a number are read**, with no zero in front of them that has to stand alone. -/
theorem readWhole_toDigits (atEnd : Malformation) (m : Nat) {rest : List Symbol}
    (hrest : Closed rest) (p : Position) :
    ∃ q, Figure.readWhole atEnd ⟨written (Nat.toDigits 10 m) ++ rest, p⟩ =
      .ok ((Nat.toDigits 10 m).map digitValue, ⟨rest, q⟩) := by
  have hdigits : ∀ c ∈ Nat.toDigits 10 m, c.isDigit = true := fun c hc =>
    Nat.isDigit_of_mem_toDigits (by decide) (by decide) hc
  obtain ⟨q, hq⟩ := digitsFrom_written hrest hdigits [] p
  refine ⟨q, ?_⟩
  rw [Figure.readWhole, Cursor.digits, hq, List.reverse_nil, List.nil_append]
  rcases Nat.eq_zero_or_pos m with rfl | hm
  · rfl
  · obtain ⟨c, cs, hcs, hc⟩ := toDigits_eq_cons hm
    rw [hcs, List.map_cons]
    split
    · rename_i heq
      simp at heq
    · -- a zero in front of other digits
      rename_i heq
      exact absurd (congrArg (·.1.head?) heq) (by simpa using hc)
    · rename_i heq
      rw [heq]

/-- Digits that write a number below the bound fit. -/
theorem fitting_eq_foldl {bound : Nat} {ds : List Nat} {n : Nat}
    (h : ds.foldl (fun n d => n * 10 + d) n < bound) :
    Figure.fitting bound n ds = (ds.foldl (fun n d => n * 10 + d) n, []) := by
  induction ds generalizing n with
  | nil => rfl
  | cons d ds ih =>
    have hle : ∀ (ds : List Nat) (n : Nat), n ≤ ds.foldl (fun n d => n * 10 + d) n := by
      intro ds
      induction ds with
      | nil => exact fun n => Nat.le_refl n
      | cons d ds ih =>
        intro n
        have := ih (n * 10 + d)
        rw [List.foldl_cons]
        omega
    -- digits never make a number smaller, so the first one fits if all of them do
    have hhead : n * 10 + d < bound := Nat.lt_of_le_of_lt (hle ds (n * 10 + d)) h
    rw [Figure.fitting, if_pos hhead, ih h, List.foldl_cons]

/-- The digits of a number write that number. -/
theorem foldl_digitValue_toDigits (m : Nat) :
    ((Nat.toDigits 10 m).map digitValue).foldl (fun n d => n * 10 + d) 0 = m := by
  rw [List.foldl_map]
  have := Nat.ofDigitChars_ten_toDigits (n := m)
  rw [Nat.ofDigitChars_eq_foldl] at this
  simpa only [digitValue, Nat.mul_comm] using this

/-- Behind its sign a written whole number is read. -/
theorem readValue_toDigits {negative : Bool} {m : Nat} {v : Json} (hm : m < UInt64.size)
    (hv : Figure.wholeNumber negative m = some v) {rest : List Symbol} (hrest : Closed rest)
    (p : Position) :
    ∃ q, Figure.readValue negative ⟨written (Nat.toDigits 10 m) ++ rest, p⟩ =
      .ok (v, ⟨rest, q⟩) := by
  obtain ⟨q, hq⟩ := readWhole_toDigits .endInValue m hrest p
  have hfraction : Figure.readFraction .endInValue ⟨rest, q⟩ = .ok ([], ⟨rest, q⟩) := by
    cases hrest <;> rfl
  have hexponent : Figure.readExponent .endInValue ⟨rest, q⟩ = .ok (none, ⟨rest, q⟩) := by
    cases hrest <;> rfl
  have hfit : Figure.fitting UInt64.size 0 ((Nat.toDigits 10 m).map digitValue) = (m, []) := by
    have hvalue := foldl_digitValue_toDigits m
    rw [fitting_eq_foldl (hvalue.symm ▸ hm), hvalue]
  refine ⟨q, ?_⟩
  simp only [Figure.readValue, Figure.read, hq, hfraction, hexponent, Figure.value, hfit, hv,
    and_self, if_true, Option.elim_some]

/-! ### Whole numbers -/

/-- A whole number that **fits 64 bits**, with or without a sign. -/
def FitsWord (n : Int) : Prop := -(Word.half : Int) ≤ n ∧ n < (UInt64.size : Int)

/-- A number that begins with a digit is read as one. -/
theorem opening_of_isDigit {c : Char} (h : c.isDigit = true) (rest : List Symbol) (p : Position) :
    opening true ⟨.char c :: rest, p⟩ =
      scalarOpening (Figure.readValue false ⟨.char c :: rest, p⟩) := by
  have hne : ∀ d : Char, d.isDigit = false → c ≠ d := fun _ hd => ne_of_isDigit h hd
  rw [opening, skipSpace_eq_self (isSpace_of_isDigit h)]
  simp only [hne '[' rfl, hne '\x7b' rfl, hne '"' rfl, hne 'n' rfl, hne 't' rfl, hne 'f' rfl,
    hne '-' rfl, digit?_of_isDigit h, Option.isSome_some, if_true, if_false, readNumber]

/-- **A written whole number is read back.** -/
theorem opening_integerChars {n : Int} (h : FitsWord n) :
    Reads (opening true) (integerChars n) (.scalar (.integer n)) := by
  intro rest p hrest
  obtain ⟨hlow, hhigh⟩ := h
  rw [integerChars]
  split_ifs with hsign
  · have hvalue : Figure.wholeNumber true n.natAbs = some (.integer n) := by
      have habs : -(n.natAbs : Int) = n := by omega
      rw [Figure.wholeNumber, if_neg (by decide), if_pos (by omega), habs]
    have hsize : n.natAbs < UInt64.size := by
      simp only [Word.half] at hlow
      simp only [UInt64.size]
      omega
    obtain ⟨q, hq⟩ := readValue_toDigits hsize hvalue hrest (p.after (.char '-'))
    refine ⟨q, ?_⟩
    have hopen : opening true ⟨written ('-' :: Nat.toDigits 10 n.natAbs) ++ rest, p⟩ =
        scalarOpening (Figure.readValue true
          ⟨written (Nat.toDigits 10 n.natAbs) ++ rest, p.after (.char '-')⟩) := rfl
    rw [hopen, hq]
    rfl
  · have hvalue : Figure.wholeNumber false n.natAbs = some (.integer n) := by
      have habs : (n.natAbs : Int) = n := by omega
      rw [Figure.wholeNumber, if_pos (by decide), habs]
    obtain ⟨q, hq⟩ := readValue_toDigits (by omega) hvalue hrest p
    obtain ⟨c, cs, hcs, hc⟩ := exists_toDigits_eq_cons n.natAbs
    refine ⟨q, ?_⟩
    rw [hcs, written_cons, List.cons_append] at hq ⊢
    rw [opening_of_isDigit hc, hq]
    rfl

/-- **A written string is read back** as a value. -/
theorem opening_stringChars (s : String) :
    Reads (opening true) (stringChars s) (.scalar (.text s)) := by
  intro rest p _
  obtain ⟨q, hq⟩ := readString_stringChars s rest (p.after (.char '"'))
  have hspace : Cursor.isSpace '"' = false := by decide
  refine ⟨q, ?_⟩
  simp only [stringChars, List.cons_append, written_cons, opening, skipSpace_eq_self hspace,
    advance_cons, hq, Char.reduceEq, if_false, if_true]

end Json

end Catalogue
