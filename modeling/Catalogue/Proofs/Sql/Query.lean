import Catalogue.Proofs.Sql.Expression
import Catalogue.Window

/-!
# Queries

The two statements that look into the table of books as a database understands them: one counts rows
and one shows them. `Catalogue.Sql.Query.ofText?` reads a text word by word, the expression behind
`WHERE` by `Catalogue.Sql.read`, and keeps what the database has to do
(`Catalogue.Sql.Query`); nothing is taken from anywhere but the text.

The values of an expression are handed over beside its text. `Catalogue.Sql.Atom.predicate?` puts
them where the placeholders are, and `Catalogue.Sql.Expression.about` is the truth that comes out,
given that of each comparison of a column with a value.
-/

namespace Catalogue

namespace Sql

/-! ### What a query asks for -/

/-- What a query that **shows rows** asks for. -/
structure Selection where
  /-- The columns. -/
  columns : List Column
  /-- What has to be true of a row, if anything. -/
  filter : Option Expression
  /-- The column that the order goes by. -/
  key : Column
  /-- The greatest values come first. -/
  descending : Bool
  /-- Which rows are shown of those that are left, in their order. -/
  window : Window

/-- A **query**. -/
inductive Query where
  /-- How many rows are there of which this is true? -/
  | count (filter : Option Expression)
  /-- Which rows are there? -/
  | rows (selection : Selection)

/-! ### Reading queries -/

/-- The columns that tokens begin with, with commas between them, and what follows. -/
def columnList? : List Token → Option (List Column × List Token)
  | .word (.column c) :: .word .comma :: ts =>
    (columnList? ts).map fun (cs, ts) => (c :: cs, ts)
  | .word (.column c) :: ts => some ([c], ts)
  | _ => none

/-- The expression that tokens begin with, if they begin with `WHERE`, and what follows. It ends
where an order is given, or at the end. -/
def filter? : List Token → Option (Option Expression × List Token)
  | .word .filter :: ts =>
    (read (ts.takeWhile (· ≠ .word .order))).map
      fun e => (some e, ts.dropWhile (· ≠ .word .order))
  | ts => some (none, ts)

/-- The table and the expression that tokens begin with, and what follows. -/
def source? : List Token → Option (Option Expression × List Token)
  | .word .source :: .word .books :: ts => filter? ts
  | _ => none

/-- The order and the window that tokens give. -/
def arrangement? : List Token → Option (Column × Bool × Window)
  | [.word .order, .word .along, .word (.column c), .word .ascending, .word .limit, .numeral n,
      .word .offset, .numeral m] => some (c, false, ⟨m, n⟩)
  | [.word .order, .word .along, .word (.column c), .word .descending, .word .limit, .numeral n,
      .word .offset, .numeral m] => some (c, true, ⟨m, n⟩)
  | _ => none

namespace Query

/-- The **query that tokens are**. -/
def ofTokens? : List Token → Option Query
  | .word .select :: .word .count :: .word .opened :: .word .star :: .word .closed :: ts =>
    match source? ts with
    | some (filter, []) => some (.count filter)
    | _ => none
  | .word .select :: ts =>
    match columnList? ts with
    | none => none
    | some (columns, ts) =>
      match source? ts with
      | none => none
      | some (filter, ts) =>
        (arrangement? ts).map fun (key, descending, window) =>
          .rows ⟨columns, filter, key, descending, window⟩
  | _ => none

/-- The **query that a text is**. -/
def ofText? (s : String) : Option Query := (tokens? s).bind ofTokens?

end Query

/-! ### What an expression says about a row -/

/-- The comparison that is written like this. -/
def Form.comparison : Form → Comparison
  | .equal => .equal
  | .like => .like
  | .ilike => .ilike
  | .lowered => .ilike

/-- The number of the value in the place of a placeholder. A question mark takes the value of its
own place among them. -/
def Mark.place (k : Nat) : Mark → Nat
  | .question => k
  | .numbered n => n

/-- The value of a number, counting from one. -/
def value? (values : List Operand) : Nat → Option Operand
  | 0 => none
  | n + 1 => values[n]?

/-- The **predicate that an atom is** when it is the `k`-th and there are these values. -/
def Atom.predicate? (values : List Operand) (k : Nat) (a : Atom) : Option Predicate :=
  (value? values (a.mark.place k)).map (⟨a.column.name, a.form.comparison, ·⟩)

/-- The **truth of the `k`-th atom**, given that of predicates. Nothing is known of a comparison
without a value. -/
def truthAt (leaf : Predicate → Truth) (values : List Operand) (as : List Atom) (k : Nat) : Truth :=
  ((as[k - 1]?).bind (·.predicate? values k)).elim .unknown leaf

/-- What an expression with these values **says**, given the truth of predicates. -/
def Expression.about (leaf : Predicate → Truth) (values : List Operand) (e : Expression) : Truth :=
  e.truth (truthAt leaf values e.atoms) 1

/-- A row is **kept** by what has to be true of it: nothing else will do. -/
def keeps (leaf : Predicate → Truth) (values : List Operand) : Option Expression → Bool
  | none => true
  | some e => e.about leaf values = .yes

/-! ### Writing queries -/

/-- Phrases with a space in front of each. -/
def spaced (phrases : List (List Token)) : List Token := phrases.flatMap (.word .space :: ·)

/-- The tokens of phrases that are no spaces. -/
def words (phrases : List (List Token)) : List Token :=
  phrases.flatMap fun p => p.filter (· ≠ .word .space)

/-- Columns with a comma behind each but the last. -/
def columnPhrases : List Column → List (List Token)
  | [] => []
  | [c] => [[.word (.column c)]]
  | c :: cs => [.word (.column c), .word .comma] :: columnPhrases cs

/-- The phrases of an order and a window. -/
def arrangementPhrases (key : Column) (descending : Bool) (w : Window) : List (List Token) :=
  [[.word .order], [.word .along], [.word (.column key)],
    [.word (if descending then .descending else .ascending)], [.word .limit], [.numeral w.limit],
    [.word .offset], [.numeral w.offset]]

section Phrases

variable {phrases : List (List Token)}

@[simp] theorem spaced_nil : spaced [] = [] := rfl

@[simp] theorem spaced_cons (p : List Token) : spaced (p :: phrases) =
    .word .space :: (p ++ spaced phrases) := rfl

@[simp] theorem spaced_append (qs : List (List Token)) :
    spaced (phrases ++ qs) = spaced phrases ++ spaced qs :=
  List.flatMap_append

/-- Phrases stand apart from each other, and from what is before them. -/
theorem isChain_append_spaced {p : List Token} (hp : p.IsChain Token.MayTouch)
    (h : ∀ q ∈ phrases, q.IsChain Token.MayTouch) :
    (p ++ spaced phrases).IsChain Token.MayTouch := by
  induction phrases generalizing p with
  | nil => rwa [spaced_nil, List.append_nil]
  | cons q phrases ih =>
    have hspace : (Token.word .space).IsSign := by decide
    have hrest := ih (h q List.mem_cons_self) fun q' hq' => h q' (List.mem_cons_of_mem _ hq')
    rw [spaced_cons]
    refine hp.append (hrest.cons fun t _ => .inl hspace) fun t _ u hu => .inr ?_
    obtain rfl : Token.word .space = u := by simpa using hu
    exact hspace

/-- **A database finds the words of phrases**, one behind the other. -/
theorem tokens?_render_spaced {p : List Token} (hp : p.IsChain Token.MayTouch)
    (h : ∀ q ∈ phrases, q.IsChain Token.MayTouch) :
    tokens? (render (p ++ spaced phrases)) = some (words (p :: phrases)) := by
  rw [tokens?, scan_render (isChain_append_spaced hp h), Option.map_some, List.filter_append,
    words, List.flatMap_cons, spaced, List.filter_flatMap]
  simp

@[simp] theorem words_nil : words [] = [] := rfl

@[simp] theorem words_cons (p : List Token) :
    words (p :: phrases) = p.filter (· ≠ .word .space) ++ words phrases := rfl

@[simp] theorem words_append (qs : List (List Token)) :
    words (phrases ++ qs) = words phrases ++ words qs :=
  List.flatMap_append

end Phrases

/-- The columns of a list are kept apart. -/
theorem isChain_of_mem_columnPhrases : ∀ (cs : List Column), ∀ p ∈ columnPhrases cs,
    p.IsChain Token.MayTouch
  | [], _, h => absurd h List.not_mem_nil
  | [c], p, h => by
    obtain rfl := List.mem_singleton.mp h
    exact List.isChain_singleton _
  | c :: c' :: cs, p, h => by
    rcases List.mem_cons.mp h with rfl | h
    · simp [Token.MayTouch, Token.IsSign, Word.signs]
    · exact isChain_of_mem_columnPhrases (c' :: cs) p h

/-- An order and a window are kept apart. -/
theorem isChain_of_mem_arrangementPhrases {key : Column} {descending : Bool} {w : Window} :
    ∀ p ∈ arrangementPhrases key descending w, p.IsChain Token.MayTouch := by
  simp [arrangementPhrases]

/-! ### Reading back what was written -/

/-- Columns are found again. -/
theorem columnList?_words (ts : List Token) : ∀ {cs : List Column}, cs ≠ [] →
    columnList? (words (columnPhrases cs) ++ .word .source :: ts) = some (cs, .word .source :: ts)
  | [], h => absurd rfl h
  | [c], _ => rfl
  | c :: c' :: cs, _ => by
    have ih := columnList?_words ts (List.cons_ne_nil c' cs)
    change (columnList? (words (columnPhrases (c' :: cs)) ++ .word .source :: ts)).map _ = _
    rw [ih]
    rfl

/-- An order and a window are found again. -/
theorem arrangement?_words (key : Column) (descending : Bool) (w : Window) :
    arrangement? (words (arrangementPhrases key descending w)) = some (key, descending, w) := by
  cases descending <;> rfl

/-- An expression is found again, up to what cannot belong to it. -/
theorem filter?_words {ts us : List Token} {e : Expression} (h : read ts = some e)
    (hts : .word .order ∉ ts) (hus : ∀ t ∈ us.head?, t = .word .order) :
    filter? (.word .filter :: (ts ++ us)) = some (some e, us) := by
  have hmem : ∀ t ∈ ts, decide (t ≠ .word .order) = true := fun t ht =>
    decide_eq_true fun heq => hts (heq ▸ ht)
  have htake : (ts ++ us).takeWhile (· ≠ .word .order) = ts := by
    rw [List.takeWhile_append_of_pos hmem]
    cases us with
    | nil => simp
    | cons u us =>
      obtain rfl := hus u rfl
      simp
  have hdrop : (ts ++ us).dropWhile (· ≠ .word .order) = us := by
    rw [List.dropWhile_append_of_pos hmem]
    cases us with
    | nil => rfl
    | cons u us =>
      obtain rfl := hus u rfl
      simp
  rw [filter?, htake, hdrop, h]
  rfl

namespace Query

/-- A count is found again. -/
theorem ofTokens?_count {ts : List Token} {filter : Option Expression}
    (h : source? ts = some (filter, [])) :
    ofTokens? (.word .select :: .word .count :: .word .opened :: .word .star :: .word .closed ::
      ts) = some (.count filter) := by
  rw [ofTokens?, h]

/-- A selection is found again. -/
theorem ofTokens?_rows {ts : List Token} (q : Selection) (hcolumns : q.columns ≠ [])
    (h : source? (.word .source :: ts) =
      some (q.filter, words (arrangementPhrases q.key q.descending q.window))) :
    ofTokens? (.word .select :: (words (columnPhrases q.columns) ++ .word .source :: ts)) =
      some (.rows q) := by
  have hlist := columnList?_words ts hcolumns
  have harrangement := arrangement?_words q.key q.descending q.window
  generalize hws : words (columnPhrases q.columns) ++ .word .source :: ts = ws at hlist ⊢
  rw [ofTokens?]
  · simp only [hlist, h, harrangement, Option.map_some]
  · -- columns do not begin like a count
    rintro _ rfl
    nomatch hlist

end Query

end Sql

end Catalogue
