import Catalogue.Text.Blank
import Mathlib.Data.List.Basic
import Mathlib.Data.List.TakeWhile

/-!
# What trimming removes

A text is what trimming leaves of it, with blanks around: `Catalogue.Text.front` in front of it and
`Catalogue.Text.back` behind it (`Catalogue.Text.front_append_trim_append_back`). Nothing is left of
a text of blanks, and of no other (`Catalogue.Text.trim_eq_empty_iff`).
-/

namespace Catalogue

namespace Text

/-- The blanks **in front** of a text. -/
def front (s : String) : List Char := s.toList.takeWhile isBlank

/-- The blanks **behind** a text; those of a text of blanks are all in front of it. -/
def back (s : String) : List Char :=
  ((s.toList.dropWhile isBlank).reverse.takeWhile isBlank).reverse

/-- The characters that **trimming removes**. -/
def trimmedOff (s : String) : List Char := front s ++ back s

variable {s : String}

/-- **A text is what trimming leaves of it**, with what it removes around. -/
theorem front_append_trim_append_back (s : String) :
    s.toList = front s ++ ((trim s).toList ++ back s) := by
  have hback : trimBlank s.toList ++ back s = s.toList.dropWhile isBlank := by
    rw [trimBlank, back, ← List.reverse_append, List.takeWhile_append_dropWhile,
      List.reverse_reverse]
  rw [trim, String.toList_ofList, hback, front, List.takeWhile_append_dropWhile]

theorem isBlank_of_mem_front {c : Char} (h : c ∈ front s) : isBlank c = true :=
  List.mem_takeWhile_imp h

theorem isBlank_of_mem_back {c : Char} (h : c ∈ back s) : isBlank c = true :=
  List.mem_takeWhile_imp (List.mem_reverse.mp h)

/-- Trimming leaves nothing of a blank text, and of no other. -/
theorem trim_eq_empty_iff (s : String) : trim s = "" ↔ isBlankText s = true := by
  have hlist : trim s = "" ↔ trimBlank s.toList = [] := String.ofList_eq_empty_iff
  rw [hlist, trimBlank, List.reverse_eq_nil_iff, List.dropWhile_eq_nil_iff, isBlankText,
    List.all_eq_true]
  refine ⟨fun h => ?_, fun h c hc => h c ?_⟩
  · by_contra hsome
    have hne : s.toList.dropWhile isBlank ≠ [] := fun hnil =>
      hsome (List.dropWhile_eq_nil_iff.mp hnil)
    -- the first character that is kept is not blank, but all that are kept are
    have hhead := List.head_dropWhile_not isBlank hne
    rw [h _ (List.mem_reverse.mpr (List.head_mem hne))] at hhead
    cases hhead
  · exact (List.dropWhile_sublist _).subset (List.mem_reverse.mp hc)

/-- Of a blank text trimming removes everything. -/
theorem mem_trimmedOff_of_trim_eq_empty (h : trim s = "") {c : Char} (hc : c ∈ s.toList) :
    c ∈ trimmedOff s := by
  have hparts := front_append_trim_append_back s
  rw [h, String.toList_empty, List.nil_append] at hparts
  rwa [trimmedOff, ← hparts]

/-- Trimming removes nothing of a text between two characters that are not blank. -/
theorem trim_eq_self {c d : Char} {cs : List Char} (h : s.toList = c :: cs ++ [d])
    (hc : isBlank c = false) (hd : isBlank d = false) : trim s = s := by
  rw [trim, trimBlank, h, List.cons_append, List.dropWhile_cons_of_neg (by simp [hc]),
    ← List.cons_append, List.reverse_append, List.reverse_singleton, List.singleton_append,
    List.dropWhile_cons_of_neg (by simp [hd]), List.reverse_cons, List.reverse_reverse, ← h,
    String.ofList_toList]

end Text

end Catalogue
