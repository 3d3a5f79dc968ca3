import Catalogue.Condition.Builder
import Catalogue.Proofs.Condition.Slots
import Catalogue.Store.Statement

/-!
# One outline for every database

A database that wants its expressions in one rendering and a database that wants them in another are
asked the same thing. For each condition there is a `Catalogue.Outline`, literal texts with places
for comparisons between them, and a list of values; every rendering writes its comparisons into the
places, each from the field, the operator and the number of its place, and changes nothing else
(`Catalogue.Condition.renderings_share_outline`).

An expression need not be written by way of an outline to have one. `Catalogue.Rendering.write`
writes it in one go from left to right: it counts the values that it has put beside the text so far,
and drops what has turned out empty. Whether a text is empty looks like a matter of the rendering;
that it is none is what the induction over the nodes is about (`Catalogue.Rendering.write_eq`).
-/

namespace Catalogue

/-! ### Outlines -/

/-- The **place** of a comparison: a field and the operator that it is compared with. -/
structure Place where
  /-- The field. -/
  field : String
  /-- The operator. -/
  comparison : Comparison

/-- The place of a predicate; its value is put beside the text. -/
def Predicate.place (p : Predicate) : Place := ⟨p.field, p.comparison⟩

/-- An **outline**: places with a literal text before each of them, and a literal text at the
end. -/
structure Outline where
  /-- The places, and the text before each. -/
  parts : List (String × Place)
  /-- The text behind the last place. -/
  tail : String

namespace Outline

/-- The places, from left to right. -/
def places (o : Outline) : List Place := o.parts.map Prod.snd

/-- Places that are filled in from the `n`-th on, with the texts before them. -/
def fillFrom (fill : Nat → Place → String) : Nat → List (String × Place) → String
  | _, [] => ""
  | n, (literal, place) :: parts => literal ++ fill n place ++ fillFrom fill (n + 1) parts

/-- The text of an outline whose places are filled in from the `n`-th on. -/
def textFrom (o : Outline) (fill : Nat → Place → String) (n : Nat) : String :=
  fillFrom fill n o.parts ++ o.tail

/-- The **text of an outline** whose places are filled in, the first of them as number one. -/
def text (o : Outline) (fill : Nat → Place → String) : String := o.textFrom fill 1

/-- The outline with one more place **before** it. -/
def place (p : Place) (o : Outline) : Outline := ⟨("", p) :: o.parts, o.tail⟩

/-- The outline with a literal text **before** it. -/
def behind (literal : String) : Outline → Outline
  | ⟨[], tail⟩ => ⟨[], literal ++ tail⟩
  | ⟨(first, p) :: parts, tail⟩ => ⟨(literal ++ first, p) :: parts, tail⟩

/-- The outline with a literal text **behind** it. -/
def before (o : Outline) (literal : String) : Outline := ⟨o.parts, o.tail ++ literal⟩

variable (o : Outline) (fill : Nat → Place → String) (n : Nat)

@[simp] theorem places_place (p : Place) : (place p o).places = p :: o.places := rfl

@[simp] theorem places_before (literal : String) : (o.before literal).places = o.places := rfl

@[simp] theorem places_behind (literal : String) : (behind literal o).places = o.places := by
  obtain ⟨parts, tail⟩ := o
  cases parts <;> rfl

@[simp] theorem textFrom_place (p : Place) :
    (place p o).textFrom fill n = fill n p ++ o.textFrom fill (n + 1) := by
  simp only [textFrom, place, fillFrom, String.empty_append, String.append_assoc]

@[simp] theorem textFrom_before (literal : String) :
    (o.before literal).textFrom fill n = o.textFrom fill n ++ literal := by
  simp only [textFrom, before, String.append_assoc]

@[simp] theorem textFrom_behind (literal : String) :
    (behind literal o).textFrom fill n = literal ++ o.textFrom fill n := by
  obtain ⟨parts, tail⟩ := o
  cases parts with
  | nil => simp only [textFrom, behind, fillFrom, String.empty_append]
  | cons part parts => simp only [textFrom, behind, fillFrom, String.append_assoc]

/-- The outline of a template. -/
def ofPieces : List Piece → Outline
  | [] => ⟨[], ""⟩
  | .slot p :: ps => place p.place (ofPieces ps)
  | .and :: ps => behind " AND " (ofPieces ps)
  | .or :: ps => behind " OR " (ofPieces ps)
  | .not :: ps => behind "NOT " (ofPieces ps)
  | .opened :: ps => behind "(" (ofPieces ps)
  | .closed :: ps => behind ")" (ofPieces ps)

/-- The places of an outline are those of the predicates of its template. -/
theorem places_ofPieces (ps : List Piece) :
    (ofPieces ps).places = (Template.predicates ps).map Predicate.place := by
  induction ps with
  | nil => rfl
  | cons p ps ih => cases p <;> simp [ofPieces, Piece.predicate?, ih]

end Outline

namespace Rendering

variable (r : Rendering)

/-- What a rendering writes into the `n`-th place. -/
def atPlace (n : Nat) (p : Place) : String := r.predicate n ⟨p.field, p.comparison, .text ""⟩

/-- The value of a predicate leaves no trace in the text. -/
theorem predicate_eq_atPlace (n : Nat) (p : Predicate) : r.predicate n p = r.atPlace n p.place :=
  rfl

/-- A rendering **fills in the outline** of a template. -/
theorem fill_eq_textFrom (n : Nat) (ps : List Piece) :
    r.fill n ps = (Outline.ofPieces ps).textFrom r.atPlace n := by
  induction ps generalizing n with
  | nil => rfl
  | cons p ps ih => cases p <;> simp [fill, Outline.ofPieces, predicate_eq_atPlace, ih]

/-! ### Writing in one go -/

/-- A text in parentheses, unless it is empty. -/
def enclosed (s : String) : String := if s.isEmpty then "" else "(" ++ s ++ ")"

/-- The word between the entries of a group. -/
def word : Combinator → String
  | .or => " OR "
  | _ => " AND "

/-- A text behind another one and a word, unless one of them is empty. -/
def joined (op : Combinator) (before s : String) : String :=
  if s.isEmpty then before else if before.isEmpty then s else before ++ word op ++ s

mutual

/-- **Write a node** that stands alone, with its values behind those there are. A predicate has the
number of its value. -/
def write : Node → List Operand → String × List Operand
  | .leaf p, vs =>
    let vs := vs ++ [p.operand]
    (r.predicate vs.length p, vs)
  | .group .not entries, vs =>
    let (inner, vs) := writeFirst entries vs
    (if inner.isEmpty then "" else "NOT " ++ enclosed inner, vs)
  | .group .and entries, vs => writeBehind .and "" entries vs
  | .group .or entries, vs => writeBehind .or "" entries vs

/-- Write the first node. -/
def writeFirst : List Node → List Operand → String × List Operand
  | [], vs => ("", vs)
  | n :: _, vs => write n vs

/-- Write nodes behind what has been written before. -/
def writeBehind (op : Combinator) (before : String) :
    List Node → List Operand → String × List Operand
  | [], vs => (before, vs)
  | n :: rest, vs =>
    let (inner, vs) := write n vs
    let entry := if n.needsParentheses then enclosed inner else inner
    writeBehind op (joined op before entry) rest vs

end

/-! ### A template in parts -/

theorem isEmpty_fill (n : Nat) (ps : List Piece) : (r.fill n ps).isEmpty = ps.isEmpty := by
  rw [Bool.eq_iff_iff, String.isEmpty_iff, List.isEmpty_iff, r.fill_eq_empty_iff]

theorem fill_enclose (n : Nat) (ps : List Piece) :
    r.fill n (Template.enclose ps) = enclosed (r.fill n ps) := by
  rw [enclosed, isEmpty_fill, Template.enclose]
  split_ifs
  · rfl
  · simp [fill, r.fill_append, String.append_assoc]

theorem fill_negate (n : Nat) (ps : List Piece) :
    r.fill n (Template.negate ps) =
      if (r.fill n ps).isEmpty then "" else "NOT " ++ enclosed (r.fill n ps) := by
  rw [isEmpty_fill, Template.negate]
  split_ifs
  · rfl
  · rw [fill, fill_enclose]

theorem fill_asEntry (n : Nat) (m : Node) (ps : List Piece) :
    r.fill n (m.asEntry ps) =
      if m.needsParentheses then enclosed (r.fill n ps) else r.fill n ps := by
  rw [Node.asEntry]
  split_ifs
  · exact r.fill_enclose n ps
  · rfl

theorem fill_join (n : Nat) (op : Combinator) (ps qs : List Piece) :
    r.fill n (Template.join op.piece ps qs) =
      joined op (r.fill n ps) (r.fill (n + (Template.predicates ps).length) qs) := by
  rw [joined, isEmpty_fill, isEmpty_fill, Template.join]
  split_ifs with hp hq hq
  · rw [List.isEmpty_iff.mp hp, List.isEmpty_iff.mp hq]
  · rw [List.isEmpty_iff.mp hp]
    rfl
  · rfl
  · rw [r.fill_append]
    cases op <;> simp [fill, Combinator.piece, word, String.append_assoc]

end Rendering

/-- It does not matter which of three lists of pieces are joined first. -/
theorem Template.join_assoc (word : Piece) (ps qs rs : List Piece) :
    join word (join word ps qs) rs = join word ps (join word qs rs) := by
  cases ps with
  | nil => rfl
  | cons p ps =>
    cases qs with
    | nil => rfl
    | cons q qs => cases rs <;> simp [join]

/-! ### What is written -/

namespace Rendering

variable (r : Rendering)

/-- The values of the predicates of a template. -/
def valuesOf (ps : List Piece) : List Operand := (Template.predicates ps).map (·.operand)

theorem valuesOf_negate (ps : List Piece) : valuesOf (Template.negate ps) = valuesOf ps := by
  rw [valuesOf, Template.predicates_negate, valuesOf]

theorem valuesOf_join (op : Combinator) (m : Node) (ps qs : List Piece) :
    valuesOf (Template.join op.piece (m.asEntry ps) qs) = valuesOf ps ++ valuesOf qs := by
  rw [valuesOf, Template.predicates_join, Node.predicates_asEntry, List.map_append, valuesOf,
    valuesOf]

mutual

/-- **A node is written as its template is filled in**, and the values of the predicates of the
template are put behind those that are there. -/
theorem write_eq : ∀ (m : Node) (vs : List Operand),
    r.write m vs = (r.fill (vs.length + 1) m.pieces, vs ++ valuesOf m.pieces)
  | .leaf p, vs => by simp [write, Node.pieces, fill, valuesOf, Piece.predicate?]
  | .group .not entries, vs => by
    rw [write, writeFirst_eq entries vs, Node.pieces, fill_negate, valuesOf_negate]
  | .group .and entries, vs => writeBehind_eq .and entries [] vs (vs.length + 1) rfl
  | .group .or entries, vs => writeBehind_eq .or entries [] vs (vs.length + 1) rfl

/-- The first node is written as its template is filled in. -/
theorem writeFirst_eq : ∀ (ms : List Node) (vs : List Operand),
    r.writeFirst ms vs =
      (r.fill (vs.length + 1) (Node.piecesOfHead ms), vs ++ valuesOf (Node.piecesOfHead ms))
  | [], vs => by simp [writeFirst, Node.piecesOfHead, fill, valuesOf]
  | m :: _, vs => write_eq m vs

/-- Nodes are written behind others as the templates of all of them are filled in. -/
theorem writeBehind_eq (op : Combinator) : ∀ (ms : List Node) (ps : List Piece)
    (vs : List Operand) (n : Nat), n + (Template.predicates ps).length = vs.length + 1 →
    r.writeBehind op (r.fill n ps) ms vs =
      (r.fill n (Template.join op.piece ps (Node.piecesOfList op.piece ms)),
        vs ++ valuesOf (Node.piecesOfList op.piece ms))
  | [], ps, vs, n, _ => by
    cases ps <;> simp [writeBehind, Node.piecesOfList, Template.join, valuesOf]
  | m :: ms, ps, vs, n, h => by
    -- the entry is one more part of the template, filled in behind what has been filled in
    have hentry : joined op (r.fill n ps) (if m.needsParentheses then
        enclosed (r.fill (vs.length + 1) m.pieces) else r.fill (vs.length + 1) m.pieces) =
          r.fill n (Template.join op.piece ps (m.asEntry m.pieces)) := by
      rw [fill_join, fill_asEntry, h]
    have hcount :
        n + (Template.predicates (Template.join op.piece ps (m.asEntry m.pieces))).length =
          (vs ++ valuesOf m.pieces).length + 1 := by
      rw [Template.predicates_join, Node.predicates_asEntry, List.length_append,
        List.length_append, valuesOf, List.length_map]
      omega
    rw [writeBehind, write_eq m vs]
    dsimp only
    rw [hentry, writeBehind_eq op ms _ _ n hcount, Template.join_assoc, Node.piecesOfList,
      valuesOf_join, List.append_assoc]

end

end Rendering

/-! ### What renderings share -/

namespace Condition

open Store (Statement)

variable (c : Condition)

/-- The **outline of a condition**. -/
def outline : Outline := .ofPieces c.template

/-- Every rendering fills in the outline. -/
theorem text_compile_eq (r : Rendering) : (c.compile r).text = c.outline.text r.atPlace :=
  r.fill_eq_textFrom 1 c.template

/-- A condition written in one go is its text with its values. -/
theorem write_eq_compile (r : Rendering) :
    r.write c.toNode [] = ((c.compile r).text, (c.compile r).values) := by
  rw [r.write_eq, values_compile]
  rfl

/-- A text with the filter of a condition in it has **one outline** for all renderings. -/
theorem exists_outline_filter (before behind : String) :
    ∃ o : Outline, o.places = c.outline.places ∧
      ∀ r : Rendering, before ++ (c.compile r).filter ++ behind = o.text r.atPlace := by
  by_cases htemplate : c.template = []
  · -- nothing is filtered, whatever the rendering
    refine ⟨⟨[], before ++ behind⟩, ?_, fun r => ?_⟩
    · rw [outline, htemplate]
      rfl
    · have hempty : (c.compile r).text = "" := (r.fill_eq_empty_iff 1 _).mpr htemplate
      rw [Clause.filter, if_pos (String.isEmpty_iff.mpr hempty), String.append_empty]
      exact String.empty_append.symm
  · refine ⟨(Outline.behind (before ++ " WHERE ") c.outline).before behind, ?_, fun r => ?_⟩
    · rw [Outline.places_before, Outline.places_behind]
    · have hne : ¬(c.compile r).text.isEmpty = true := fun h =>
        htemplate ((r.fill_eq_empty_iff 1 _).mp (String.isEmpty_iff.mp h))
      rw [Clause.filter, if_neg hne, Outline.text, Outline.textFrom_before,
        Outline.textFrom_behind, text_compile_eq, Outline.text]
      simp only [String.append_assoc]

/-- **All renderings of a condition share one outline and the same values.** The places of the
outline are those of the predicates that are written, and the values are theirs; a rendering says
how a place is filled in, and no more. Writing the condition in one go comes to the same.

The statements that count and show its books have one outline for both dialects, with the same
places. -/
theorem renderings_share_outline :
    ∃ (o : Outline) (written : List Predicate),
      written.Sublist c.predicates ∧ o.places = written.map Predicate.place ∧
      (∀ r : Rendering, (c.compile r).text = o.text r.atPlace ∧
        (c.compile r).values = written.map (·.operand) ∧
        r.write c.toNode [] = ((c.compile r).text, (c.compile r).values)) ∧
      (∃ count : Outline, count.places = o.places ∧
        ∀ d : Dialect, (Statement.count c).text? d = some (count.text d.rendering.atPlace)) ∧
      ∀ (select : Option (List String)) (order : Option SortKey) (w : Window),
        ∃ books : Outline, books.places = o.places ∧ ∀ d : Dialect,
          (Statement.books ⟨select, c, order⟩ w).text? d =
            some (books.text d.rendering.atPlace) := by
  refine ⟨c.outline, Template.predicates c.template, c.toNode.sublist_predicates,
    Outline.places_ofPieces _,
    fun r => ⟨c.text_compile_eq r, values_compile r, c.write_eq_compile r⟩, ?_, ?_⟩
  · obtain ⟨o, hplaces, htext⟩ := c.exists_outline_filter "SELECT COUNT(*) FROM books" ""
    refine ⟨o, hplaces, fun d => ?_⟩
    rw [← htext d.rendering, String.append_empty]
    rfl
  · intro select order w
    obtain ⟨o, hplaces, htext⟩ := c.exists_outline_filter
      ("SELECT " ++ Statement.shownText ⟨select, c, order⟩ ++ " FROM books")
      (" ORDER BY " ++ Statement.orderText ⟨select, c, order⟩ ++ w.clause)
    refine ⟨o, hplaces, fun d => ?_⟩
    rw [← htext d.rendering, Statement.text?, Statement.booksText]
    simp only [String.append_assoc]

/-- Two dialects, one outline. -/
example :
    let c := (empty.ilike "title" "yeti").or (empty.equal "id" (.integer 1))
    (c.compile Dialect.postgres.rendering).text = "title ILIKE $1 AND (id = $2)" ∧
      (c.compile Dialect.sqlite.rendering).text = "LOWER(title) LIKE LOWER(?) AND (id = ?)" := by
  decide

end Condition

end Catalogue
