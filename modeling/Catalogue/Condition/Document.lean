import Catalogue.Condition.Rejection
import Catalogue.Json.Decoder
import Catalogue.Word

/-!
# Conditions as documents

A group is written as an object with its operator `o` and its entries `e`, a predicate as one with
its comparison `o`, its field `f` and its value `v`. `Catalogue.Condition.toJson` writes a
condition, `Catalogue.Condition.ofJson?` reads one.

Reading judges each node before its entries and entries in their order, and rejects the whole
document at the first node that is none. A node is a group if it has entries at all; groups inside a
condition have at least one, and a negation has exactly one. The outermost node is always a group,
it joins by `AND` if it does not say otherwise, and it may be empty.
-/

namespace Catalogue

/-! ### Writing -/

/-- A predicate as a document. -/
def Predicate.toJson (p : Predicate) : Json :=
  .object [("o", .text p.comparison.name), ("f", .text p.field), ("v", p.operand.toJson)]

namespace Node

mutual

/-- A node as a document. -/
def toJson : Node → Json
  | .leaf p => p.toJson
  | .group op entries => .object [("o", .text op.name), ("e", .array (listToJson entries))]

/-- Nodes as documents. -/
def listToJson : List Node → List Json
  | [] => []
  | n :: rest => n.toJson :: listToJson rest

end

end Node

/-- A **condition as a document**. -/
def Condition.toJson (c : Condition) : Json := c.toNode.toJson

/-! ### What a node may hold -/

/-- The members that a node of either kind **may have**. -/
structure Members where
  /-- The operator. -/
  operator : Option String
  /-- The field. -/
  field : Option String
  /-- The value. -/
  value : Json
  /-- The entries. -/
  entries : Option (List Json)

namespace Members

/-- The fields of the record. -/
def fields : List (Json.Decoder.Field Members) :=
  [.free "o" (.optional .text) fun o m => { m with operator := o },
    .free "f" (.optional .text) fun f m => { m with field := f },
    .free "v" .any fun v m => { m with value := v },
    .free "e" (.optional (.list .any)) fun e m => { m with entries := e }]

/-- A node as a record of its members, all of them optional. -/
def decoder : Json.Decoder Members := .record "WireNode" fields ⟨none, none, .null, none⟩

/-- The operator, or no text at all. -/
def operatorText (m : Members) : String := m.operator.getD ""

end Members

/-! ### Reading -/

/-- A whole number as a value: one that does not fit a signed 64-bit word is a floating-point
number. -/
def Operand.ofInteger (n : Int) : Operand :=
  if Word.IsSigned n then .integer (Int64.ofInt n) else .real (Float.ofInt n)

namespace Predicate

/-- The value of a predicate: a text, or under an equality a number. -/
def operandOf? (comparison : Comparison) : Json → Option Operand
  | .text s => some (.text s)
  | .integer n => if comparison = .equal then some (.ofInteger n) else none
  | .real x => if comparison = .equal then some (.real x.value) else none
  | _ => none

/-- The predicate that the members of a node make. -/
def ofMembers? (raw : String) (m : Members) : Except Rejection Predicate :=
  match Comparison.ofName? m.operatorText with
  | none => .error (.unsupportedExpression m.operatorText raw)
  | some comparison =>
    match operandOf? comparison m.value with
    | none => .error (.unsupportedOperand m.value.compact raw)
    | some operand =>
      let field := m.field.getD ""
      if field.isEmpty then .error (.unsupportedExpression m.operatorText raw)
      else .ok ⟨field, comparison, operand⟩

end Predicate

/-- The combinator of a group inside a condition, if it may have so many entries. -/
def Combinator.ofEntries? (operator : String) (count : Nat) : Option Combinator :=
  match ofName? operator with
  | some .not => if count = 1 then some .not else none
  | some op => if count = 0 then none else some op
  | none => none

namespace Node

/-- What comes of each of some values, in their order, up to the first rejection. -/
def each {α : Type} (read : Json → Except Rejection α) : List Json → Except Rejection (List α)
  | [] => .ok []
  | j :: rest =>
    match read j with
    | .error r => .error r
    | .ok a =>
      match each read rest with
      | .error r => .error r
      | .ok as => .ok (a :: as)

/-- Read a **node** inside a condition, at most `depth` deep. -/
def ofJson? : Nat → Json → Except Rejection Node
  | 0, j => .error (.unsupportedExpression "" j.compact)
  | depth + 1, j =>
    match Members.decoder.ofValue j with
    | .error f => .error (.malformed (.node f j.compact))
    | .ok m =>
      match m.entries with
      | some entries =>
        match Combinator.ofEntries? m.operatorText entries.length with
        | none => .error (.unsupportedExpression m.operatorText j.compact)
        | some op =>
          match each (ofJson? depth) entries with
          | .error r => .error r
          | .ok nodes => .ok (.group op nodes)
      | none =>
        match Predicate.ofMembers? j.compact m with
        | .error r => .error r
        | .ok p => .ok (.leaf p)

end Node

namespace Condition

/-- The combinator of the outermost group. -/
def rootCombinator? (m : Members) : Option Combinator :=
  match m.operator with
  | none => some .and
  | some name => Combinator.ofName? name

/-- Read a **condition** from a document. -/
def ofJson? (j : Json) : Except Rejection Condition :=
  match Members.decoder.ofValue j with
  | .error f => .error (.ofFault f)
  | .ok m =>
    let entries := m.entries.getD []
    match rootCombinator? m with
    | none => .error (.unsupportedExpression m.operatorText j.compact)
    | some op =>
      if op = .not ∧ entries.length ≠ 1 then
        .error (.unsupportedExpression op.name j.compact)
      else
        match Node.each (Node.ofJson? j.height) entries with
        | .error r => .error r
        | .ok nodes => .ok ⟨op, nodes⟩

/-- Read a condition from a **text**: the whole of it has to be JSON first. -/
def ofText? (s : String) : Except Rejection Condition :=
  match Json.ofText? s with
  | .error f => .error (.ofFault f)
  | .ok j => ofJson? j

end Condition

/-! ### Values alone -/

namespace Operand

/-- A value by itself: a text or any number. -/
def ofJson? : Json → Except Json.Fault Operand
  | .text s => .ok (.text s)
  | .integer n => .ok (ofInteger n)
  | .real x => .ok (.real x.value)
  | _ => .error (.unplaced .noOperand)

/-- Read a value off a text. What it is comes before what follows it. -/
def ofText? (s : String) : Except Json.Fault Operand :=
  match Json.front (Symbol.ofText s) with
  | .error f => .error f
  | .ok (j, c) =>
    match ofJson? j with
    | .error f => .error f
    | .ok v =>
      match Json.noMore c with
      | .error f => .error f
      | .ok () => .ok v

end Operand

/-! ### Documents inside a stream -/

/-- Why a text that holds **one document and nothing else** is refused. -/
inductive StreamFault where
  /-- The text is no JSON text. -/
  | text (f : Json.Fault)
  /-- The document is rejected. -/
  | document (r : Rejection)

/-- The wording of a stream fault. -/
def StreamFault.message : StreamFault → String
  | .text f => f.message
  | .document r => r.message

/-- Read one document off the front of a text and only then look at what follows it: a rejection
goes before a fault behind the document. -/
def streamed {α : Type} (read : Json → Except Rejection α) (s : String) : Except StreamFault α :=
  match Json.front (Symbol.ofText s) with
  | .error f => .error (.text f)
  | .ok (j, c) =>
    match read j with
    | .error r => .error (.document r)
    | .ok a =>
      match Json.noMore c with
      | .error f => .error (.text f)
      | .ok () => .ok a

end Catalogue
