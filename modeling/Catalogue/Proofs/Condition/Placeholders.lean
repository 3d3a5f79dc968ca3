import Catalogue.Proofs.Condition.Growth
import Catalogue.Proofs.Condition.Tokens

/-!
# Placeholders and values

The values of a condition are handed to the database beside its text, and the database puts the
first value in the place of the first placeholder that it finds, and so on. This file reads the
placeholders off the text (`Catalogue.Sql.placeholders`), whatever else the text is made of, and
says that they are the ones of the values, in their order (`Catalogue.Rendering.placeholders_fill`),
and that each of them stands in the comparison that its value belongs to.

Reading them needs two things. A field must not look like a placeholder, and the number of a
placeholder must not run into digits behind it; the latter is a matter of what may follow the place
of a predicate in a template (`Catalogue.Node.isChain_pieces`).
-/

namespace Catalogue

namespace Sql

/-! ### Reading placeholders -/

/-- The **placeholders of a text**, from left to right: question marks, and dollar signs with the
digits behind them. -/
def placeholders : List Char → List String
  | [] => []
  | c :: cs =>
    if c = '?' then "?" :: placeholders cs
    else if c = '$' then ("$" ++ String.ofList (cs.takeWhile Char.isDigit)) :: placeholders cs
    else placeholders cs

/-- A text without the signs that placeholders begin with. -/
def IsPlain (cs : List Char) : Prop := '?' ∉ cs ∧ '$' ∉ cs

instance : DecidablePred IsPlain := fun cs => inferInstanceAs (Decidable ('?' ∉ cs ∧ '$' ∉ cs))

/-- A text that begins with no digit. -/
def StartsClear (cs : List Char) : Prop := ∀ c ∈ cs.head?, c.isDigit = false

/-- There are no placeholders in a plain text. -/
theorem placeholders_append_of_isPlain {cs : List Char} (h : IsPlain cs) (ds : List Char) :
    placeholders (cs ++ ds) = placeholders ds := by
  induction cs with
  | nil => rfl
  | cons c cs ih =>
    obtain ⟨hquestion, hdollar⟩ := h
    rw [List.mem_cons, not_or] at hquestion hdollar
    rw [List.cons_append, placeholders, if_neg (Ne.symm hquestion.1), if_neg (Ne.symm hdollar.1),
      ih ⟨hquestion.2, hdollar.2⟩]

/-- Digits are plain. -/
theorem isPlain_of_isDigit {cs : List Char} (h : ∀ c ∈ cs, c.isDigit = true) : IsPlain cs := by
  refine ⟨fun hmem => ?_, fun hmem => ?_⟩
  · exact absurd (h _ hmem) (by decide)
  · exact absurd (h _ hmem) (by decide)

/-- A run of digits ends where something else begins. -/
theorem takeWhile_append_of_startsClear {cs ds : List Char} (h : ∀ c ∈ cs, c.isDigit = true)
    (hds : StartsClear ds) : (cs ++ ds).takeWhile Char.isDigit = cs := by
  rw [List.takeWhile_append_of_pos h]
  cases ds with
  | nil => simp
  | cons d ds => rw [List.takeWhile_cons_of_neg (by simp [hds d rfl]), List.append_nil]

/-- There are as many question marks among the placeholders as in the text. -/
theorem count_placeholders (cs : List Char) : (placeholders cs).count "?" = cs.count '?' := by
  induction cs with
  | nil => rfl
  | cons c cs ih =>
    rw [placeholders]
    split_ifs with hquestion hdollar
    · rw [hquestion, List.count_cons_self, List.count_cons_self, ih]
    · have hne : "$" ++ String.ofList (cs.takeWhile Char.isDigit) ≠ "?" := by
        intro h
        have := congrArg String.toList h
        simp at this
      rw [List.count_cons_of_ne hne, List.count_cons_of_ne hquestion, ih]
    · rw [List.count_cons_of_ne hquestion, ih]

end Sql

open Sql (placeholders IsPlain StartsClear)

/-- **A placeholder is found** where it was written, unless digits follow it. -/
theorem Placeholder.placeholders_text (m : Placeholder) (n : Nat) {cs : List Char}
    (h : StartsClear cs) :
    placeholders ((m.text n).toList ++ cs) = m.text n :: placeholders cs := by
  cases m with
  | question =>
    have htext : (Placeholder.question.text n).toList = ['?'] := by simp [Placeholder.text]
    rw [htext]
    rfl
  | numbered =>
    have hdigit : ∀ c ∈ Nat.toDigits 10 n, c.isDigit = true := fun c hc =>
      Nat.isDigit_of_mem_toDigits (by decide) (by decide) hc
    have htext : (Placeholder.numbered.text n).toList = '$' :: Nat.toDigits 10 n := by
      simp [Placeholder.text]
    rw [htext, List.cons_append, placeholders, if_neg (by decide), if_pos rfl,
      Sql.takeWhile_append_of_startsClear hdigit h,
      Sql.placeholders_append_of_isPlain (Sql.isPlain_of_isDigit hdigit), Placeholder.text]

namespace Rendering

variable (r : Rendering)

/-- **A comparison has one placeholder**, that of its value, if its field is plain. -/
theorem placeholders_predicate (n : Nat) {p : Predicate} (hfield : IsPlain p.field.toList)
    {cs : List Char} (h : StartsClear cs) :
    placeholders ((r.predicate n p).toList ++ cs) = r.placeholder.text n :: placeholders cs := by
  rw [predicate]
  split
  · simp only [String.toList_append, List.append_assoc]
    rw [Sql.placeholders_append_of_isPlain (by decide), Sql.placeholders_append_of_isPlain hfield,
      Sql.placeholders_append_of_isPlain (by decide),
      Placeholder.placeholders_text _ _ (by simp [StartsClear]),
      Sql.placeholders_append_of_isPlain (by decide)]
  · have hname : IsPlain p.comparison.name.toList := by cases p.comparison <;> decide
    simp only [String.toList_append, List.append_assoc]
    rw [Sql.placeholders_append_of_isPlain hfield, Sql.placeholders_append_of_isPlain (by decide),
      Sql.placeholders_append_of_isPlain hname, Sql.placeholders_append_of_isPlain (by decide),
      Placeholder.placeholders_text _ _ h]

/-- No digit stands behind the place of a predicate. -/
theorem startsClear_fill {p : Predicate} {ps : List Piece}
    (h : (Piece.slot p :: ps).IsChain Piece.MayPrecede) (n : Nat) :
    StartsClear (r.fill n ps).toList := by
  cases ps with
  | nil => simp [fill, StartsClear]
  | cons q qs =>
    have hq : (Piece.slot p).MayPrecede q := (List.isChain_cons_cons.mp h).1
    cases q with
    | slot q => exact hq.elim
    | _ => simp [fill, StartsClear]

/-- **The placeholders of a template** are those of its values, in their order. -/
theorem placeholders_fill {ps : List Piece} (h : ps.IsChain Piece.MayPrecede)
    (hfields : ∀ p ∈ Template.predicates ps, IsPlain p.field.toList) (n : Nat) :
    placeholders (r.fill n ps).toList =
      (List.range' n (Template.predicates ps).length).map r.placeholder.text := by
  induction ps generalizing n with
  | nil => simp [fill, placeholders]
  | cons p ps ih =>
    rw [Template.predicates_cons] at hfields
    have ih := ih h.tail fun q hq => hfields q (List.mem_append_right _ hq)
    rw [Template.predicates_cons]
    cases p with
    | slot p =>
      have hplain : IsPlain p.field.toList := hfields p (by simp [Piece.predicate?])
      rw [fill, String.toList_append,
        r.placeholders_predicate n hplain (r.startsClear_fill h (n + 1)), ih, Piece.predicate?,
        Option.toList_some, List.singleton_append, List.length_cons, List.range'_succ,
        List.map_cons]
    | _ =>
      -- a word or a parenthesis holds no placeholder
      rw [fill, String.toList_append, Sql.placeholders_append_of_isPlain (by decide), ih]
      rfl

end Rendering

namespace Condition

variable {c : Condition}

/-- A condition that is read, or built from the empty one, has only negations of one entry. -/
theorem unaryNots_of_readOrBuilt
    (h : (∃ j, ofJson? j = .ok c) ∨ Grown (· = .empty) (fun _ => True) (fun _ => True) c) :
    c.UnaryNots := by
  rcases h with ⟨j, hj⟩ | hbuilt
  · exact (sound_iff_formed.mp (sound_of_ofJson? hj)).unaryNots
  · have hform : c.Formed Combinator.Admits fun _ => True := by
      refine hbuilt.formed (fun _ _ hcount => hcount) (fun _ _ _ => trivial) ?_
        fun d hd _ count => ?_
      · rintro _ rfl
        exact ⟨.inl ⟨rfl, by decide⟩, fun n hn => absurd hn List.not_mem_nil⟩
      · rw [hd.op_eq_and]
        exact Nat.succ_pos count
    exact hform.unaryNots

/-- **Placeholders and values are aligned**, for every condition that is read or built. The values
are those of the predicates; the placeholders of the text are numbered through from the first to the
last of them, or are as many question marks; and the placeholder of each value is the only one in
the comparison of its predicate. -/
theorem placeholders_aligned
    (hc : (∃ j, ofJson? j = .ok c) ∨ Grown (· = .empty) (fun _ => True) (fun _ => True) c)
    (hfields : ∀ f ∈ c.fields, IsPlain f.toList) (r : Rendering) :
    (c.compile r).values = c.predicates.map (·.operand) ∧
      placeholders (c.compile r).text.toList =
        (List.range' 1 (c.compile r).values.length).map r.placeholder.text ∧
      (r.placeholder = .question →
        (c.compile r).text.toList.count '?' = (c.compile r).values.length) ∧
      ∀ k p, c.predicates[k]? = some p → ∃ before after,
        (c.compile r).text = before ++ r.predicate (k + 1) p ++ after ∧
        placeholders before.toList = (List.range' 1 k).map r.placeholder.text ∧
        placeholders (r.predicate (k + 1) p).toList = [r.placeholder.text (k + 1)] := by
  have hnots := unaryNots_of_readOrBuilt hc
  have hchain : c.template.IsChain Piece.MayPrecede := c.toNode.isChain_pieces
  have hplain : ∀ p ∈ Template.predicates c.template, IsPlain p.field.toList := by
    rw [predicates_template hnots]
    exact fun p hp => hfields p.field (List.mem_map_of_mem hp)
  have hmarks : placeholders (c.compile r).text.toList =
      (List.range' 1 (c.compile r).values.length).map r.placeholder.text := by
    rw [values_compile, List.length_map]
    exact r.placeholders_fill hchain hplain 1
  refine ⟨values_compile_of_unaryNots hnots r, hmarks, fun hquestion => ?_, fun k p hp => ?_⟩
  · have hcount := Sql.count_placeholders (c.compile r).text.toList
    rw [hmarks, hquestion] at hcount
    rw [← hcount, List.count_eq_length.mpr, List.length_map, List.length_range']
    intro mark hmark
    obtain ⟨n, -, rfl⟩ := List.mem_map.mp hmark
    rfl
  · obtain ⟨before, after, htemplate, hlength, htext⟩ := exists_text_eq hnots r hp
    rw [htemplate] at hchain hplain
    have hbefore : ∀ q ∈ Template.predicates before, IsPlain q.field.toList := fun q hq =>
      hplain q (by rw [Template.predicates_append]; exact List.mem_append_left _ hq)
    have hp : IsPlain p.field.toList := hplain p (by simp [Piece.predicate?])
    refine ⟨_, _, htext, ?_, ?_⟩
    · rw [r.placeholders_fill hchain.left_of_append hbefore, hlength]
    · have hclear : StartsClear [] := by simp [StartsClear]
      simpa [placeholders] using r.placeholders_predicate (k + 1) hp hclear

/-- Alternatives, one of them negated, with values that look like placeholders. -/
def marked : Condition :=
  (empty.ilike "title" "$2?").or
    ((empty.equal "id" (.integer 7)).not (empty.like "author" "?"))

theorem placeholders_aligned_marked :
    (∀ f ∈ marked.fields, IsPlain f.toList) ∧
      (marked.compile ⟨.numbered, .lowered⟩).text =
        "LOWER(title) LIKE LOWER($1) AND (id = $2 OR NOT (author LIKE $3))" ∧
      placeholders (marked.compile ⟨.numbered, .lowered⟩).text.toList = ["$1", "$2", "$3"] ∧
      (marked.compile ⟨.question, .native⟩).text.toList.count '?' = 3 := by
  have hempty : Grown (· = .empty) (fun _ => True) (fun _ => True) empty := .start rfl
  have hbuilt : Grown (· = .empty) (fun _ => True) (fun _ => True) marked :=
    .or (hempty.ilike trivial trivial _) trivial
      (.not (hempty.equal trivial trivial _) trivial (hempty.like trivial trivial _))
  have hfields : ∀ f ∈ marked.fields, IsPlain f.toList := by decide
  refine ⟨hfields, by decide, ?_, ?_⟩
  · exact (placeholders_aligned (.inr hbuilt) hfields ⟨.numbered, .lowered⟩).2.1
  · exact (placeholders_aligned (.inr hbuilt) hfields ⟨.question, .native⟩).2.2.1 rfl

end Condition

end Catalogue
