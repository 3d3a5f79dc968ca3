import Catalogue.Book
import Mathlib.Data.List.Chain

/-!
# Tokens of SQL text

The statements that the catalogue puts to a database are made of a small stock of words and signs
(`Catalogue.Sql.Word`) and of numerals, and of nothing else. `Catalogue.Sql.render` writes tokens
one behind the other, and `Catalogue.Sql.scan` is what a database does first with a text: it cuts
the text at every sign, and takes a run of letters and digits between two signs for one token.

A run ends only where a sign stands, so two tokens that are both made of letters and digits must not
touch. `Catalogue.Sql.scan_render` says that this is all there is to it: tokens that are kept apart
are found again.
-/

namespace Catalogue

namespace Sql

/-! ### The stock of words -/

/-- A **word or sign** that statements are written with. -/
inductive Word where
  /-- The word `SELECT`. -/
  | select
  /-- The word `COUNT`. -/
  | count
  /-- The word `FROM`. -/
  | source
  /-- The name of the table. -/
  | books
  /-- The word `WHERE`. -/
  | filter
  /-- The word `ORDER`. -/
  | order
  /-- The word `BY`. -/
  | along
  /-- The word `ASC`. -/
  | ascending
  /-- The word `DESC`. -/
  | descending
  /-- The word `LIMIT`. -/
  | limit
  /-- The word `OFFSET`. -/
  | offset
  /-- The word `AND`. -/
  | and
  /-- The word `OR`. -/
  | or
  /-- The word `NOT`. -/
  | not
  /-- The word `LIKE`. -/
  | like
  /-- The word `ILIKE`. -/
  | ilike
  /-- The name of the function that puts a text in lower case. -/
  | lower
  /-- The name of a column. -/
  | column (c : Column)
  /-- The sign of equality. -/
  | equals
  /-- The question mark. -/
  | mark
  /-- The dollar sign. -/
  | dollar
  /-- An opening parenthesis. -/
  | opened
  /-- A closing parenthesis. -/
  | closed
  /-- A comma. -/
  | comma
  /-- An asterisk. -/
  | star
  /-- A space. -/
  | space
  deriving DecidableEq

namespace Word

/-- How a word is written. -/
def text : Word → String
  | .select => "SELECT"
  | .count => "COUNT"
  | .source => "FROM"
  | .books => "books"
  | .filter => "WHERE"
  | .order => "ORDER"
  | .along => "BY"
  | .ascending => "ASC"
  | .descending => "DESC"
  | .limit => "LIMIT"
  | .offset => "OFFSET"
  | .and => "AND"
  | .or => "OR"
  | .not => "NOT"
  | .like => "LIKE"
  | .ilike => "ILIKE"
  | .lower => "LOWER"
  | .column c => c.name
  | .equals => "="
  | .mark => "?"
  | .dollar => "$"
  | .opened => "("
  | .closed => ")"
  | .comma => ","
  | .star => "*"
  | .space => " "

/-- The words that are made of letters. -/
def lettered : List Word :=
  [.select, .count, .source, .books, .filter, .order, .along, .ascending, .descending, .limit,
    .offset, .and, .or, .not, .like, .ilike, .lower] ++ Column.all.map .column

/-- The words that are a single sign. -/
def signs : List Word := [.equals, .mark, .dollar, .opened, .closed, .comma, .star, .space]

theorem mem_lettered_or_mem_signs (w : Word) : w ∈ lettered ∨ w ∈ signs := by
  cases w with
  | column c => cases c <;> decide
  | _ => decide

/-- The word that a run of letters is. -/
def ofLetters? (run : List Char) : Option Word := lettered.find? (·.text.toList = run)

/-- The word that a sign is. -/
def ofSign? (c : Char) : Option Word := signs.find? (·.text.toList = [c])

theorem ofLetters?_text : ∀ w ∈ lettered, ofLetters? w.text.toList = some w := by
  decide

theorem ofSign?_of_mem {w : Word} (h : w ∈ signs) :
    ∃ c : Char, w.text.toList = [c] ∧ c.isAlphanum = false ∧ ofSign? c = some w := by
  simp only [signs, List.mem_cons, List.not_mem_nil, or_false] at h
  rcases h with rfl | rfl | rfl | rfl | rfl | rfl | rfl | rfl
  · exact ⟨'=', by decide⟩
  · exact ⟨'?', by decide⟩
  · exact ⟨'$', by decide⟩
  · exact ⟨'(', by decide⟩
  · exact ⟨')', by decide⟩
  · exact ⟨',', by decide⟩
  · exact ⟨'*', by decide⟩
  · exact ⟨' ', by decide⟩

theorem isAlphanum_of_mem_lettered :
    ∀ w ∈ lettered, w.text.toList ≠ [] ∧ ∀ c ∈ w.text.toList, c.isAlphanum = true := by
  have h : lettered.all fun w => w.text.toList ≠ [] && w.text.toList.all Char.isAlphanum := by
    decide
  simpa only [List.all_eq_true, Bool.and_eq_true, decide_eq_true_eq] using h

end Word

/-! ### Tokens -/

/-- A **token**: a word of the stock, or a number in decimal digits. -/
inductive Token where
  /-- A word or sign. -/
  | word (w : Word)
  /-- A numeral. -/
  | numeral (n : Nat)
  deriving DecidableEq

namespace Token

/-- How a token is written. -/
def text : Token → String
  | .word w => w.text
  | .numeral n => String.ofList (Nat.toDigits 10 n)

/-- A token that is a single sign. -/
def IsSign : Token → Prop
  | .word w => w ∈ Word.signs
  | .numeral _ => False

instance : DecidablePred IsSign
  | .word w => inferInstanceAs (Decidable (w ∈ Word.signs))
  | .numeral _ => inferInstanceAs (Decidable False)

/-- Two tokens may **touch**: at least one of them is a sign. -/
def MayTouch (a b : Token) : Prop := a.IsSign ∨ b.IsSign

instance : DecidableRel MayTouch := fun a b => inferInstanceAs (Decidable (a.IsSign ∨ b.IsSign))

/-- The token that a run of letters and digits is. -/
def ofRun? (run : List Char) : Option Token :=
  match Word.ofLetters? run with
  | some w => some (.word w)
  | none => if run.all Char.isDigit then some (.numeral (Nat.ofDigitChars 10 run 0)) else none

end Token

/-- The **text of tokens**, one behind the other. -/
def render (ts : List Token) : String := String.join (ts.map Token.text)

@[simp] theorem render_append (ts us : List Token) :
    render (ts ++ us) = render ts ++ render us := by
  simp [render, String.join_append]

theorem toList_render_cons (t : Token) (ts : List Token) :
    (render (t :: ts)).toList = t.text.toList ++ (render ts).toList := by
  simp [render]

/-- A text is **made of tokens**, and of nothing else. -/
def Made (s : String) : Prop := ∃ ts, s = render ts

/-! ### Reading tokens -/

/-- The token of a run that has come to its end, if there is a run at all. -/
def runEnd (run : List Char) : Option (List Token) :=
  if run = [] then some [] else (Token.ofRun? run).map fun t => [t]

/-- **Cut a text into tokens**, behind a run of letters and digits that has not ended yet. -/
def scan (run : List Char) : List Char → Option (List Token)
  | [] => runEnd run
  | c :: cs =>
    if c.isAlphanum then scan (run ++ [c]) cs
    else
      (runEnd run).bind fun before =>
        (Word.ofSign? c).bind fun w => (scan [] cs).map fun after => before ++ .word w :: after

/-- The **tokens of a text**, without the spaces between them. -/
def tokens? (s : String) : Option (List Token) :=
  (scan [] s.toList).map fun ts => ts.filter (· ≠ .word .space)

/-! ### Reading back what was written -/

/-- A run goes on as long as letters and digits come. -/
theorem scan_append {cs : List Char} (h : ∀ c ∈ cs, c.isAlphanum = true) :
    ∀ run rest, scan run (cs ++ rest) = scan (run ++ cs) rest := by
  induction cs with
  | nil => simp
  | cons c cs ih =>
    intro run rest
    have hc : c.isAlphanum = true := h c (by simp)
    rw [List.cons_append, scan, if_pos hc, ih (fun d hd => h d (List.mem_cons_of_mem _ hd))]
    simp

/-- A run ends at a sign. -/
theorem scan_sign {c : Char} (h : c.isAlphanum = false) (run cs : List Char) :
    scan run (c :: cs) = (runEnd run).bind fun before => (scan [] (c :: cs)).map (before ++ ·) := by
  have hnil : runEnd [] = some [] := rfl
  rw [scan, scan, if_neg (by simp [h]), if_neg (by simp [h]), hnil]
  cases runEnd run <;> cases Word.ofSign? c <;> cases scan [] cs <;> rfl

/-- A sign is written as one character, which is neither letter nor digit and is found again. -/
theorem exists_char_of_isSign {t : Token} (h : t.IsSign) :
    ∃ w c, t = .word w ∧ t.text.toList = [c] ∧ c.isAlphanum = false ∧
      Word.ofSign? c = some w := by
  cases t with
  | word w =>
    obtain ⟨c, hc, halnum, hw⟩ := Word.ofSign?_of_mem h
    exact ⟨w, c, rfl, hc, halnum, hw⟩
  | numeral n => exact h.elim

/-- No word of the stock is a numeral. -/
theorem ofLetters?_toDigits (n : Nat) : Word.ofLetters? (Nat.toDigits 10 n) = none := by
  refine List.find?_eq_none.mpr fun w hw => ?_
  have hletter : Word.lettered.all fun w => w.text.toList.any fun c => !c.isDigit := by decide
  obtain ⟨c, hc, hdigit⟩ := List.any_eq_true.mp (List.all_eq_true.mp hletter w hw)
  rw [Bool.not_eq_true'] at hdigit
  simp only [decide_eq_true_eq]
  intro heq
  rw [heq] at hc
  rw [Nat.isDigit_of_mem_toDigits (by decide) (by decide) hc] at hdigit
  exact absurd hdigit (by decide)

/-- A token that is no sign is written as one run, and the run is that token. -/
theorem ofRun?_text {t : Token} (h : ¬t.IsSign) :
    t.text.toList ≠ [] ∧ (∀ c ∈ t.text.toList, c.isAlphanum = true) ∧
      Token.ofRun? t.text.toList = some t := by
  cases t with
  | word w =>
    have hw : w ∈ Word.lettered := (Word.mem_lettered_or_mem_signs w).resolve_right h
    obtain ⟨hne, halnum⟩ := Word.isAlphanum_of_mem_lettered w hw
    exact ⟨hne, halnum, by rw [Token.text, Token.ofRun?, Word.ofLetters?_text w hw]⟩
  | numeral n =>
    have hdigit : ∀ c ∈ Nat.toDigits 10 n, c.isDigit = true := fun c hc =>
      Nat.isDigit_of_mem_toDigits (by decide) (by decide) hc
    rw [Token.text, String.toList_ofList]
    refine ⟨Nat.toDigits_ne_nil, fun c hc => ?_, ?_⟩
    · rw [Char.isAlphanum, hdigit c hc, Bool.or_true]
    · rw [Token.ofRun?, ofLetters?_toDigits]
      simp only [List.all_eq_true.mpr hdigit, if_true, Nat.ofDigitChars_ten_toDigits]

/-- **Tokens that are kept apart are found again** in their text. -/
theorem scan_render {ts : List Token} (h : ts.IsChain Token.MayTouch) :
    scan [] (render ts).toList = some ts := by
  induction ts with
  | nil => rfl
  | cons t ts ih =>
    have ih := ih h.tail
    rw [toList_render_cons]
    by_cases hsign : t.IsSign
    · obtain ⟨w, c, rfl, hc, halnum, hw⟩ := exists_char_of_isSign hsign
      rw [hc, List.singleton_append, scan, if_neg (by simp [halnum]), hw, ih]
      rfl
    · obtain ⟨hne, halnum, hrun⟩ := ofRun?_text hsign
      have hend : runEnd t.text.toList = some [t] := by rw [runEnd, if_neg hne, hrun]; rfl
      rw [scan_append halnum, List.nil_append]
      -- what follows the run is nothing, or it begins with a sign
      cases ts with
      | nil => simpa [render, scan] using hend
      | cons u us =>
        have hu : u.IsSign := (List.isChain_cons_cons.mp h).1.resolve_left hsign
        obtain ⟨w, c, rfl, hc, hcalnum, -⟩ := exists_char_of_isSign hu
        rw [toList_render_cons, hc, List.singleton_append] at ih ⊢
        rw [scan_sign hcalnum, hend, ih]
        rfl

end Sql

end Catalogue
