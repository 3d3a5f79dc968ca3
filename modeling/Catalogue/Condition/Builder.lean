import Catalogue.Condition.Rejection

/-!
# Building conditions

A condition is built up from the empty one (`Catalogue.Condition.empty`) by adding entries at its
end. The search patterns of `Catalogue.Condition.like` and `Catalogue.Condition.ilike` match any
text that contains the one given. A group is never added without entries: alternatives and
negations of the empty condition leave the condition as it was.
-/

namespace Catalogue

/-- A predicate, checked: it has a field, and a pattern is a text. -/
def Predicate.make? (field : String) (comparison : Comparison) (operand : Operand) :
    Except Rejection Predicate :=
  if field.isEmpty then .error (.unsupportedExpression comparison.name "empty field")
  else if comparison.requiresText ∧ operand.text?.isNone then
    .error (.unsupportedOperand operand.display
      ("\x7bo: " ++ comparison.name ++ ", f: " ++ field ++ ", v: " ++ operand.display ++ "\x7d"))
  else .ok ⟨field, comparison, operand⟩

namespace Condition

/-- The condition that **every** book satisfies. -/
def empty : Condition := ⟨.and, []⟩

/-- A condition with one more entry. -/
def push (c : Condition) (n : Node) : Condition := { c with entries := c.entries ++ [n] }

/-- The pattern of the texts that contain a text. -/
def containing (s : String) : String := "%" ++ s ++ "%"

/-- The field **equals** the value. -/
def equal (c : Condition) (field : String) (operand : Operand) : Condition :=
  c.push (.leaf ⟨field, .equal, operand⟩)

/-- The field **contains** the text. -/
def like (c : Condition) (field text : String) : Condition :=
  c.push (.leaf ⟨field, .like, .text (containing text)⟩)

/-- The field **contains** the text, in whatever letter case. -/
def ilike (c : Condition) (field text : String) : Condition :=
  c.push (.leaf ⟨field, .ilike, .text (containing text)⟩)

/-- **One of** the entries of another condition. -/
def or (c sub : Condition) : Condition :=
  if sub.isEmpty then c else c.push (.group .or sub.entries)

/-- **Not** the other condition. -/
def not (c sub : Condition) : Condition :=
  if sub.isEmpty then c else c.push (.group .not [sub.toNode])

end Condition

end Catalogue
