import Catalogue.Condition.Basic
import Catalogue.Json.Fault

/-!
# Why a condition is rejected

`Catalogue.Rejection` names the reasons for which a condition document, a search document or a
single predicate is rejected. Every reason but a fault of the text itself carries the node
concerned, as it was written.
-/

namespace Catalogue

/-- Why a document is **no condition at all**. -/
inductive Misshape where
  /-- The text, or the outermost node, is at fault. -/
  | document (f : Json.Fault)
  /-- A node further in is at fault. -/
  | node (f : Json.Fault) (raw : String)
  /-- A search document is no object. -/
  | notObject (raw : String)

/-- The wording of a misshape. -/
def Misshape.message : Misshape → String
  | .document f => f.message
  | .node f raw => f.message ++ ": " ++ raw
  | .notObject raw => "find query must be a JSON object: " ++ raw

/-- Why a condition is **rejected**. -/
inductive Rejection where
  /-- A node is none: its operator is unknown, or it has the wrong number of entries, or a predicate
  has no field. -/
  | unsupportedExpression (operator raw : String)
  /-- A predicate has a value that its comparison cannot take. -/
  | unsupportedOperand (value raw : String)
  /-- The document does not have the shape of a condition. -/
  | malformed (m : Misshape)

namespace Rejection

/-- The **message** of a rejection. -/
def message : Rejection → String
  | .unsupportedExpression operator raw => "unsupported expression " ++ operator ++ ": " ++ raw
  | .unsupportedOperand value raw => "unsupported type value " ++ value ++ ": " ++ raw
  | .malformed m => "invalid condition document: " ++ m.message

/-- A fault of the text or of the outermost node. -/
def ofFault (f : Json.Fault) : Rejection := .malformed (.document f)

end Rejection

end Catalogue
