import Catalogue.Condition.Builder
import Catalogue.Proofs.Condition.Evaluation
import Catalogue.Store.Comparison
import Mathlib

/-!
# What a search pattern matches

The patterns of `Catalogue.Condition.like` and `Catalogue.Condition.ilike` are a text between two
percent signs. What such a pattern matches is said here for any database that knows patterns at
all: `Catalogue.Store.Pattern.StandsFor` says what a pattern stands for, given which characters the
database compares as one. A search is put to the database as text, and
`Catalogue.Condition.FindsText` says what it finds when it reads the text again.

A search finds the texts of which the text searched for, *taken as a pattern itself*, matches a
part. If that has neither of the two characters with a meaning in patterns, these are the texts in
which it occurs, letter by letter (`Catalogue.Condition.search_finds_parts`). If it has one of them,
it may be found where it does not occur at all
(`Catalogue.Condition.underscore_finds_other_texts`).

The table of books matches a pattern in one go, by the rests that the pattern can leave over. That
this is the same relation is `Catalogue.Store.Pattern.matchesAll_iff`; what carries it is that of
the rests at hand each is a rest of those before it.
-/

namespace Catalogue

namespace Store

namespace Pattern

/-! ### What a pattern stands for -/

/-- A pattern **stands for** a text, where `same` says which characters are compared as one. A
percent sign stands for any characters, an underscore for any single one, and any other character
for one that is the same. No character escapes another. -/
def StandsFor (same : Char → Char → Prop) : List Char → List Char → Prop
  | [], x => x = []
  | p :: ps, x =>
    if p = '%' then ∃ front rest, x = front ++ rest ∧ StandsFor same ps rest
    else ∃ c rest, x = c :: rest ∧ (p = '_' ∨ same p c) ∧ StandsFor same ps rest

/-- Two characters are the same but for the letter case of ASCII letters. -/
def SameLetter (p c : Char) : Prop := p.toLower = c.toLower

/-- Characters are **compared by letters**: a character is the same as itself, and otherwise only
the letter case may make no difference. -/
structure ByLetters (same : Char → Char → Prop) : Prop where
  /-- A character is the same as itself. -/
  refl : ∀ c, same c c
  /-- What is the same is the same but for the letter case. -/
  sameLetter : ∀ {p c}, same p c → SameLetter p c

theorem byLetters_eq : ByLetters Eq := ⟨fun _ => rfl, fun h => congrArg Char.toLower h⟩

theorem byLetters_sameLetter : ByLetters SameLetter := ⟨fun _ => rfl, fun h => h⟩

/-- A text **occurs** in another: it is, character by character, the same as a part of it. -/
def Occurs (same : Char → Char → Prop) (v x : List Char) : Prop :=
  ∃ part, part <:+: x ∧ List.Forall₂ same v part

/-- A text has **neither of the characters** that mean something in a pattern. -/
def IsLiteral (v : List Char) : Prop := '%' ∉ v ∧ '_' ∉ v

section StandsFor

variable {same : Char → Char → Prop}

theorem standsFor_percent (ps x : List Char) :
    StandsFor same ('%' :: ps) x ↔ ∃ front rest, x = front ++ rest ∧ StandsFor same ps rest := by
  rw [StandsFor, if_pos rfl]

theorem standsFor_cons {p : Char} (hp : p ≠ '%') (ps x : List Char) :
    StandsFor same (p :: ps) x ↔
      ∃ c rest, x = c :: rest ∧ (p = '_' ∨ same p c) ∧ StandsFor same ps rest := by
  rw [StandsFor, if_neg hp]

/-- One pattern behind another stands for what the one stands for, behind that of the other. -/
theorem standsFor_append (ps qs x : List Char) :
    StandsFor same (ps ++ qs) x ↔
      ∃ front rest, x = front ++ rest ∧ StandsFor same ps front ∧ StandsFor same qs rest := by
  induction ps generalizing x with
  | nil =>
    constructor
    · intro h
      exact ⟨[], x, rfl, rfl, h⟩
    · rintro ⟨front, rest, rfl, rfl, h⟩
      exact h
  | cons p ps ih =>
    rw [List.cons_append]
    by_cases hp : p = '%'
    · subst hp
      simp only [standsFor_percent, ih]
      constructor
      · rintro ⟨any, rest, rfl, front, rest, rfl, hps, hqs⟩
        exact ⟨any ++ front, rest, (List.append_assoc ..).symm, ⟨any, front, rfl, hps⟩, hqs⟩
      · rintro ⟨front, rest, rfl, ⟨any, front, rfl, hps⟩, hqs⟩
        exact ⟨any, front ++ rest, List.append_assoc .., front, rest, rfl, hps, hqs⟩
    · simp only [standsFor_cons hp, ih]
      constructor
      · rintro ⟨c, rest, rfl, hc, front, rest, rfl, hps, hqs⟩
        exact ⟨c :: front, rest, rfl, ⟨c, front, rfl, hc, hps⟩, hqs⟩
      · rintro ⟨front, rest, rfl, ⟨c, front, rfl, hc, hps⟩, hqs⟩
        exact ⟨c, front ++ rest, rfl, hc, front, rest, rfl, hps, hqs⟩

/-- **A pattern between percent signs** stands for the texts of which it stands for a part. -/
theorem standsFor_containing (v x : List Char) :
    StandsFor same ('%' :: (v ++ ['%'])) x ↔ ∃ part, part <:+: x ∧ StandsFor same v part := by
  simp only [standsFor_percent, standsFor_append]
  constructor
  · rintro ⟨front, rest, rfl, part, behind, rfl, hv, -⟩
    exact ⟨part, ⟨front, behind, List.append_assoc ..⟩, hv⟩
  · rintro ⟨part, ⟨front, behind, rfl⟩, hv⟩
    exact ⟨front, part ++ behind, List.append_assoc .., part, behind, rfl, hv, behind, [],
      (List.append_nil behind).symm, rfl⟩

/-- **A text without characters of a meaning** stands for what is the same, character by
character. -/
theorem standsFor_of_isLiteral {v : List Char} (hv : IsLiteral v) (x : List Char) :
    StandsFor same v x ↔ List.Forall₂ same v x := by
  induction v generalizing x with
  | nil => exact List.forall₂_nil_left_iff.symm
  | cons p v ih =>
    obtain ⟨hpercent, hunderscore⟩ := hv
    have hp : p ≠ '%' := fun h => hpercent (h ▸ List.mem_cons_self)
    have hp' : p ≠ '_' := fun h => hunderscore (h ▸ List.mem_cons_self)
    have hv : IsLiteral v := ⟨fun h => hpercent (List.mem_cons_of_mem p h),
      fun h => hunderscore (List.mem_cons_of_mem p h)⟩
    rw [standsFor_cons hp, List.forall₂_cons_left_iff]
    simp only [hp', false_or, ih hv]
    constructor
    · rintro ⟨c, rest, rfl, hc, hrest⟩
      exact ⟨c, rest, hc, hrest, rfl⟩
    · rintro ⟨c, rest, hc, hrest, rfl⟩
      exact ⟨c, rest, rfl, hc, hrest⟩

/-- What occurs in a text has the same characters as a part of it. -/
theorem Occurs.exists_mem {v x : List Char} (h : Occurs same v x) : ∀ p ∈ v, ∃ c ∈ x, same p c := by
  obtain ⟨part, hpart, hsame⟩ := h
  intro p hp
  induction hsame with
  | nil => exact absurd hp List.not_mem_nil
  | @cons a b v part hab _ ih =>
    have hrest : part <:+: x := (List.suffix_cons b part).isInfix.trans hpart
    rcases List.mem_cons.mp hp with rfl | hp
    · exact ⟨b, hpart.subset List.mem_cons_self, hab⟩
    · exact ih hrest hp

/-! ### Lower case -/

/-- Only a letter is the lower case of something else. -/
theorem toLower_eq_iff {c d : Char} (hd : d.isAlpha = false) : c.toLower = d ↔ c = d := by
  have hsame : ∀ {c : Char}, c.isAlpha = false → c.toLower = c := by
    intro c hc
    refine Char.toLower_eq_of_not_isUpper fun hupper => ?_
    rw [Char.isAlpha, hupper, Bool.true_or] at hc
    exact absurd hc (by decide)
  constructor
  · rintro rfl
    rw [Char.isAlpha_toLower_eq_isAlpha] at hd
    exact (hsame hd).symm
  · rintro rfl
    exact hsame hd

/-- **Both sides in lower case** are compared without regard to letter case, however letters are
compared. -/
theorem standsFor_toLower (hsame : ByLetters same) (ps x : List Char) :
    StandsFor same (ps.map Char.toLower) (x.map Char.toLower) ↔ StandsFor SameLetter ps x := by
  have hletter : ∀ p c : Char, same p.toLower c.toLower ↔ SameLetter p c := by
    intro p c
    constructor
    · intro h
      have := hsame.sameLetter h
      rwa [SameLetter, Char.toLower_toLower_eq_toLower, Char.toLower_toLower_eq_toLower] at this
    · intro h
      rw [h]
      exact hsame.refl _
  induction ps generalizing x with
  | nil => exact List.map_eq_nil_iff
  | cons p ps ih =>
    rw [List.map_cons]
    by_cases hp : p = '%'
    · subst hp
      have hpercent : '%'.toLower = '%' := rfl
      rw [hpercent, standsFor_percent, standsFor_percent]
      constructor
      · rintro ⟨front, rest, hx, hps⟩
        obtain ⟨front, rest, rfl, rfl, rfl⟩ := List.map_eq_append_iff.mp hx
        exact ⟨front, rest, rfl, (ih rest).mp hps⟩
      · rintro ⟨front, rest, rfl, hps⟩
        exact ⟨_, _, List.map_append, (ih rest).mpr hps⟩
    · have hp' : p.toLower ≠ '%' := fun h => hp ((toLower_eq_iff rfl).mp h)
      have hone : p.toLower = '_' ↔ p = '_' := toLower_eq_iff rfl
      rw [standsFor_cons hp', standsFor_cons hp]
      constructor
      · rintro ⟨c, rest, hx, hc, hps⟩
        obtain ⟨c, rest, rfl, rfl, rfl⟩ := List.map_eq_cons_iff.mp hx
        exact ⟨c, rest, rfl, hc.imp hone.mp (hletter p c).mp, (ih rest).mp hps⟩
      · rintro ⟨c, rest, rfl, hc, hps⟩
        exact ⟨_, _, List.map_cons, hc.imp hone.mpr (hletter p c).mpr, (ih rest).mpr hps⟩

end StandsFor

/-! ### The matcher of the table -/

/-- Texts each of which is a **rest of those before it**. -/
def Nested (texts : List (List Char)) : Prop := texts.Pairwise fun t u => u <:+ t

/-- The rests of a text are all the texts at its end, the longest first. -/
theorem suffixes_eq_tails (x : List Char) : suffixes x = x.tails := by
  induction x with
  | nil => rfl
  | cons c x ih => rw [suffixes, List.tails_cons, ih]

theorem nested_suffixes (x : List Char) : Nested (suffixes x) := by
  induction x with
  | nil => exact List.pairwise_singleton _ _
  | cons c x ih =>
    refine List.pairwise_cons.mpr ⟨fun u hu => ?_, ih⟩
    rw [suffixes_eq_tails, List.mem_tails] at hu
    exact hu.trans (List.suffix_cons c x)

theorem behind?_eq_some_iff {p : Char} (t rest : List Char) :
    behind? p t = some rest ↔ ∃ c, t = c :: rest ∧ (p = '_' ∨ SameLetter p c) := by
  cases t with
  | nil => simp [behind?]
  | cons c cs =>
    rw [behind?]
    split_ifs with h
    · constructor
      · intro hrest
        exact ⟨c, congrArg (c :: ·) (Option.some.inj hrest), h⟩
      · rintro ⟨d, hd, -⟩
        exact congrArg some (List.cons.inj hd).2
    · refine iff_of_false (fun hnone => nomatch hnone) ?_
      rintro ⟨d, hd, hsame⟩
      obtain ⟨rfl, -⟩ := List.cons.inj hd
      exact h hsame

/-- Behind one character each, texts are nested as they were before it. -/
theorem Nested.behind {texts : List (List Char)} (h : Nested texts) (p : Char) :
    Nested (texts.filterMap (behind? p)) := by
  refine List.Pairwise.filterMap _ (fun t u hut t' ht' u' hu' => ?_) h
  obtain ⟨c, rfl, -⟩ := (behind?_eq_some_iff t t').mp ht'
  obtain ⟨d, rfl, -⟩ := (behind?_eq_some_iff u u').mp hu'
  rcases List.suffix_cons_iff.mp hut with heq | hsuffix
  · exact (List.cons.inj heq).2 ▸ List.suffix_rfl
  · exact (List.suffix_cons d u').trans hsuffix

theorem rests_cons {p : Char} (hp : p ≠ '%') (ps : List Char) (texts : List (List Char)) :
    rests (p :: ps) texts = rests ps (texts.filterMap (behind? p)) := by
  cases texts <;> rw [rests, if_neg hp]

/-- **The rests that a pattern leaves over** of nested texts are what follows, in one of them, a
text that the pattern stands for. -/
theorem mem_rests_iff {texts : List (List Char)} (h : Nested texts) (ps rest : List Char) :
    rest ∈ rests ps texts ↔
      ∃ t ∈ texts, ∃ front, t = front ++ rest ∧ StandsFor SameLetter ps front := by
  induction ps generalizing texts with
  | nil =>
    constructor
    · intro hrest
      exact ⟨rest, hrest, [], rfl, rfl⟩
    · rintro ⟨t, ht, front, rfl, rfl⟩
      exact ht
  | cons p ps ih =>
    by_cases hp : p = '%'
    · subst hp
      cases texts with
      | nil =>
        refine iff_of_false List.not_mem_nil ?_
        rintro ⟨t, ht, -⟩
        exact List.not_mem_nil ht
      | cons longest texts =>
        have hlongest : ∀ t ∈ longest :: texts, t <:+ longest := fun t ht =>
          (List.mem_cons.mp ht).elim (fun heq => heq ▸ List.suffix_rfl)
            ((List.pairwise_cons.mp h).1 t)
        rw [rests, if_pos rfl, ih (nested_suffixes longest)]
        simp only [suffixes_eq_tails, List.mem_tails, standsFor_percent]
        -- what is skipped may be skipped in the longest text, of which the others are rests
        constructor
        · rintro ⟨t, ⟨any, hany⟩, front, rfl, hps⟩
          exact ⟨longest, List.mem_cons_self, any ++ front, by rw [← hany, List.append_assoc],
            any, front, rfl, hps⟩
        · rintro ⟨t, ht, front, rfl, any, front, rfl, hps⟩
          refine ⟨front ++ rest, List.IsSuffix.trans ⟨any, ?_⟩ (hlongest _ ht), front, rfl, hps⟩
          rw [List.append_assoc]
    · rw [rests_cons hp, ih (h.behind p)]
      simp only [List.mem_filterMap, behind?_eq_some_iff, standsFor_cons hp]
      constructor
      · rintro ⟨t, ⟨u, hu, c, rfl, hc⟩, front, rfl, hps⟩
        exact ⟨c :: (front ++ rest), hu, c :: front, rfl, c, front, rfl, hc, hps⟩
      · rintro ⟨t, ht, front, rfl, c, front, rfl, hc, hps⟩
        exact ⟨front ++ rest, ⟨_, ht, c, rfl, hc⟩, front, rfl, hps⟩

/-- **The table matches** what a pattern stands for, without regard to letter case. -/
theorem matchesAll_iff (pattern x : String) :
    matchesAll pattern x = true ↔ StandsFor SameLetter (visible pattern) (visible x) := by
  have hnested : Nested [visible x] := List.pairwise_singleton _ _
  rw [matchesAll, List.any_eq_true]
  constructor
  · rintro ⟨rest, hrest, hempty⟩
    obtain rfl := List.isEmpty_iff.mp hempty
    obtain ⟨t, ht, front, rfl, hps⟩ := (mem_rests_iff hnested _ _).mp hrest
    rw [List.append_nil, List.mem_singleton] at ht
    exact ht ▸ hps
  · intro h
    exact ⟨[], (mem_rests_iff hnested _ _).mpr
      ⟨visible x, List.mem_singleton.mpr rfl, visible x, (List.append_nil _).symm, h⟩, rfl⟩

/-- A text without the characters that the table takes for an **end or for others**. -/
def IsOrdinary (s : String) : Prop :=
  ∀ c ∈ s.toList, c.toNat ≠ 0 ∧ c.toNat ≠ 0xFFFE ∧ c.toNat ≠ 0xFFFF

/-- All of an ordinary text is seen as it is. -/
theorem visible_eq_self {s : String} (h : IsOrdinary s) : visible s = s.toList := by
  have hall : s.toList.takeWhile (fun c => c.toNat ≠ 0) = s.toList :=
    List.takeWhile_eq_self_iff.mpr fun c hc => by simpa using (h c hc).1
  have hseen : ∀ c ∈ s.toList, seen c = c := fun c hc => by
    rw [seen, if_neg (not_or.mpr (h c hc).2)]
  rw [visible, hall]
  exact (List.map_congr_left hseen).trans (List.map_id' _)

end Pattern

end Store

/-! ### Searches put as text -/

open Store.Pattern

namespace Sql

/-- A comparison of this form **holds** between the text that is its value and the text of its
column, by a database that compares characters by `same` under `LIKE`. -/
def Form.Holds (same : Char → Char → Prop) : Form → List Char → List Char → Prop
  | .equal, v, x => v = x
  | .like, v, x => StandsFor same v x
  | .ilike, v, x => StandsFor SameLetter v x
  | .lowered, v, x => StandsFor same (v.map Char.toLower) (x.map Char.toLower)

end Sql

namespace Condition

/-- A condition **finds a text** in a column: what a database reads in the text of the condition is
one comparison of that column, and this holds of the text, with the value in its place. -/
def FindsText (same : Char → Char → Prop) (r : Rendering) (column : Column) (x : String)
    (c : Condition) : Prop :=
  ∃ a v, (Sql.tokens? (c.compile r).text).bind Sql.read = some (.atom a) ∧ a.column = column ∧
    Sql.value? (c.compile r).values (a.mark.place 1) = some (.text v) ∧
    a.form.Holds same v.toList x.toList

variable {same : Char → Char → Prop} (r : Rendering) (column : Column)

/-- **A condition of one predicate** is read as one comparison. -/
theorem read_single {p : Predicate} (h : Column.IsName p.field) :
    (Sql.tokens? ((⟨.and, [.leaf p]⟩ : Condition).compile r).text).bind Sql.read =
      some (.atom (r.atom 1 p)) := by
  have hfields : ∀ f ∈ (⟨.and, [.leaf p]⟩ : Condition).fields, Column.IsName f := by
    intro f hf
    obtain rfl : f = p.field := List.mem_singleton.mp hf
    exact h
  have hwords : r.words 1 (⟨.and, [.leaf p]⟩ : Condition).template = (r.atom 1 p).tokens :=
    List.append_nil _
  rw [r.tokens?_compile hfields, Option.bind_some, hwords]
  exact (Sql.Derives.disjunct (.conjunct (.atom (r.atom 1 p)))).read_eq

/-- What a comparison with a pattern finds is what the pattern stands for. -/
theorem findsText_single_iff (op : Comparison) (pattern x : String) :
    FindsText same r column x ⟨.and, [.leaf ⟨column.name, op, .text pattern⟩]⟩ ↔
      (r.form op).Holds same pattern.toList x.toList := by
  have hname : Column.IsName column.name := Column.isName_iff.mpr ⟨column, Column.ofName?_name _⟩
  have hcolumn : (⟨column.name, op, .text pattern⟩ : Predicate).column = column := by
    rw [Predicate.column, Column.ofName?_name, Option.getD_some]
  have hvalue : Sql.value? [Operand.text pattern] ((r.mark 1).place 1) = some (.text pattern) := by
    rw [r.place_mark]
    rfl
  constructor
  · rintro ⟨a, v, hread, -, hv, hholds⟩
    rw [read_single r hname] at hread
    obtain rfl := Sql.Expression.atom.inj (Option.some.inj hread)
    obtain rfl := Operand.text.inj (Option.some.inj (hvalue.symm.trans hv))
    exact hholds
  · intro hholds
    exact ⟨r.atom 1 ⟨column.name, op, .text pattern⟩, pattern, read_single r hname, hcolumn, hvalue,
      hholds⟩

/-- The search for a text asks for the pattern of the texts that contain it. -/
theorem toList_containing (v : String) : (containing v).toList = '%' :: (v.toList ++ ['%']) := by
  simp [containing]

theorem findsText_like_iff (v x : String) :
    FindsText same r column x (Condition.empty.like column.name v) ↔
      ∃ part, part <:+: x.toList ∧ StandsFor same v.toList part := by
  rw [← standsFor_containing, ← toList_containing]
  exact findsText_single_iff r column .like (containing v) x

theorem findsText_ilike_iff (hsame : ByLetters same) (v x : String) :
    FindsText same r column x (Condition.empty.ilike column.name v) ↔
      ∃ part, part <:+: x.toList ∧ StandsFor SameLetter v.toList part := by
  rw [← standsFor_containing, ← toList_containing]
  refine (findsText_single_iff r column .ilike (containing v) x).trans ?_
  rw [Rendering.form]
  cases r.folding with
  | native => exact Iff.rfl
  | lowered => exact standsFor_toLower hsame _ _

/-- A row of the table satisfies a comparison with a pattern if the table matches the pattern. -/
theorem satisfies_single_iff {row : Store.Row} {x : String} (hx : row.text? column = some x)
    {op : Comparison} (hop : op ≠ .equal) (pattern : String) :
    row.satisfies ⟨.and, [.leaf ⟨column.name, op, .text pattern⟩]⟩ = true ↔
      matchesAll pattern x = true := by
  have hleaf : row.predicate ⟨column.name, op, .text pattern⟩ =
      .ofBool (matchesAll pattern x) := by
    rw [Store.Row.predicate, Column.ofName?_name]
    cases op with
    | equal => exact absurd rfl hop
    | like => exact congrArg (Store.Comparison.matchesText · (.text pattern)) hx
    | ilike => exact congrArg (Store.Comparison.matchesText · (.text pattern)) hx
  have hmeaning : row.satisfies ⟨.and, [.leaf ⟨column.name, op, .text pattern⟩]⟩ =
      decide (row.predicate ⟨column.name, op, .text pattern⟩ = .yes) := rfl
  rw [hmeaning, hleaf]
  cases matchesAll pattern x <;> decide

/-- **The table finds ordinary texts** as a database does that disregards the letter case. -/
theorem satisfies_iff_findsText {row : Store.Row} {v x : String} (hx : row.text? column = some x)
    (hv : IsOrdinary v) (hordinary : IsOrdinary x) {op : Comparison} (hop : op ≠ .equal) :
    row.satisfies ⟨.and, [.leaf ⟨column.name, op, .text (containing v)⟩]⟩ = true ↔
      FindsText SameLetter r column x
        ⟨.and, [.leaf ⟨column.name, op, .text (containing v)⟩]⟩ := by
  have hpattern : IsOrdinary (containing v) := by
    intro c hc
    rw [toList_containing, List.mem_cons, List.mem_append, List.mem_singleton] at hc
    rcases hc with rfl | hc | rfl
    · decide
    · exact hv c hc
    · decide
  rw [satisfies_single_iff column hx hop, matchesAll_iff, visible_eq_self hpattern,
    visible_eq_self hordinary, findsText_single_iff]
  cases op with
  | equal => exact absurd rfl hop
  | like => exact Iff.rfl
  | ilike =>
    rw [Rendering.form]
    cases r.folding with
    | native => exact Iff.rfl
    | lowered => exact (standsFor_toLower byLetters_sameLetter _ _).symm

/-- **A search finds the texts of which the text searched for matches a part**, if it is taken as a
pattern. So it finds the texts in which that text occurs, provided that it has no character with a
meaning in patterns; by `LIKE` the letter case counts as it does for the database, by `ILIKE`,
however this is written, it does not count. In the table of books it never does. -/
theorem search_finds_parts {same : Char → Char → Prop} (hsame : ByLetters same) (r : Rendering)
    (column : Column) (v x : String) :
    (FindsText same r column x (Condition.empty.like column.name v) ↔
        ∃ part, part <:+: x.toList ∧ StandsFor same v.toList part) ∧
      (FindsText same r column x (Condition.empty.ilike column.name v) ↔
        ∃ part, part <:+: x.toList ∧ StandsFor SameLetter v.toList part) ∧
      (IsLiteral v.toList →
        (FindsText same r column x (Condition.empty.like column.name v) ↔
          Occurs same v.toList x.toList) ∧
        (FindsText same r column x (Condition.empty.ilike column.name v) ↔
          Occurs SameLetter v.toList x.toList)) ∧
      ∀ row : Store.Row, row.text? column = some x → IsOrdinary v → IsOrdinary x →
        (row.satisfies (Condition.empty.like column.name v) = true ↔
          FindsText SameLetter r column x (Condition.empty.like column.name v)) ∧
        (row.satisfies (Condition.empty.ilike column.name v) = true ↔
          FindsText SameLetter r column x (Condition.empty.ilike column.name v)) := by
  have hlike : FindsText same r column x (Condition.empty.like column.name v) ↔ _ :=
    findsText_like_iff r column v x
  have hilike := findsText_ilike_iff r column hsame v x
  refine ⟨hlike, hilike, fun hv => ⟨hlike.trans ?_, hilike.trans ?_⟩, fun row hx hv hordinary => ?_⟩
  · simp only [standsFor_of_isLiteral hv, Occurs]
  · simp only [standsFor_of_isLiteral hv, Occurs]
  · have hop : Comparison.like ≠ .equal ∧ Comparison.ilike ≠ .equal := by decide
    exact ⟨satisfies_iff_findsText r column hx hv hordinary hop.1,
      satisfies_iff_findsText r column hx hv hordinary hop.2⟩

/-- A row with a title. -/
def tibet : Store.Row := ⟨some 1, "Tintin in Tibet", "Herge", ""⟩

/-- A database that tells letter cases apart under `LIKE` finds a text in another letter case by
`ILIKE` only. The table finds it either way. -/
theorem search_finds_parts_tibet :
    (ByLetters Eq ∧ IsLiteral "tin IN".toList ∧ tibet.text? .title = some "Tintin in Tibet" ∧
        IsOrdinary "tin IN" ∧ IsOrdinary "Tintin in Tibet") ∧
      ¬FindsText Eq ⟨.numbered, .native⟩ .title "Tintin in Tibet"
          (Condition.empty.like "title" "tin IN") ∧
      FindsText Eq ⟨.numbered, .native⟩ .title "Tintin in Tibet"
          (Condition.empty.ilike "title" "tin IN") ∧
      tibet.satisfies (Condition.empty.like "title" "tin IN") = true := by
  have hliteral : IsLiteral "tin IN".toList := ⟨by decide, by decide⟩
  have hv : IsOrdinary "tin IN" := by simp [IsOrdinary]
  have hx : IsOrdinary "Tintin in Tibet" := by simp [IsOrdinary]
  have hnone : ¬Occurs Eq "tin IN".toList "Tintin in Tibet".toList := by
    intro h
    obtain ⟨c, hc, rfl⟩ := h.exists_mem 'I' (by decide)
    exact absurd hc (by decide)
  have hsome : Occurs SameLetter "tin IN".toList "Tintin in Tibet".toList := by
    refine ⟨"tin in".toList, ⟨"Tin".toList, " Tibet".toList, by decide⟩, ?_⟩
    simp [SameLetter]
  obtain ⟨-, -, hoccurs, -⟩ :=
    search_finds_parts byLetters_eq ⟨.numbered, .native⟩ .title "tin IN" "Tintin in Tibet"
  obtain ⟨-, -, hletters, htable⟩ :=
    search_finds_parts byLetters_sameLetter ⟨.numbered, .native⟩ .title "tin IN" "Tintin in Tibet"
  exact ⟨⟨byLetters_eq, hliteral, rfl, hv, hx⟩, fun h => hnone ((hoccurs hliteral).1.mp h),
    (hoccurs hliteral).2.mpr hsome,
    (htable tibet rfl hv hx).1.mpr ((hletters hliteral).1.mpr hsome)⟩

/-- **An underscore in a search stands for any character**: the search finds a title in which the
text searched for does not occur, in whatever letter case. -/
theorem underscore_finds_other_texts :
    (FindsText SameLetter ⟨.question, .lowered⟩ .title "Tintin in Tibet"
          (Condition.empty.like "title" "Tin_in") ∧
        FindsText SameLetter ⟨.question, .lowered⟩ .title "Tintin in Tibet"
          (Condition.empty.ilike "title" "Tin_in") ∧
        tibet.satisfies (Condition.empty.like "title" "Tin_in") = true) ∧
      ¬Occurs SameLetter "Tin_in".toList "Tintin in Tibet".toList := by
  have hstands : ∃ part, part <:+: "Tintin in Tibet".toList ∧
      StandsFor SameLetter "Tin_in".toList part := by
    refine ⟨"Tintin".toList, ⟨[], " in Tibet".toList, by decide⟩, ?_⟩
    simp [StandsFor, SameLetter]
  have hnone : ¬Occurs SameLetter "Tin_in".toList "Tintin in Tibet".toList := by
    intro h
    obtain ⟨c, hc, hsame⟩ := h.exists_mem '_' (by decide)
    have hother : ∀ c ∈ "Tintin in Tibet".toList, '_'.toLower ≠ c.toLower := by simp
    exact hother c hc hsame
  refine ⟨⟨(findsText_like_iff _ .title _ _).mpr hstands,
    (findsText_ilike_iff _ .title byLetters_sameLetter _ _).mpr hstands, ?_⟩, hnone⟩
  decide

end Condition

end Catalogue
