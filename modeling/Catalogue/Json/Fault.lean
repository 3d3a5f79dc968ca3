import Catalogue.Json.Printer

/-!
# What can be wrong with a JSON document

A document is refused for one of two reasons. Either it is no JSON text, and
`Catalogue.Json.Malformation` names what was expected where; or it is, but some value in it is not
of the kind its reader wants, and `Catalogue.Json.Mismatch` names both. A `Catalogue.Json.Fault` is
such a cause together with the place where it was noticed, if a text was read, and with the way from
the whole document to the value concerned. `Catalogue.Json.Fault.message` is the one place where the
wording is fixed.
-/

namespace Catalogue

/-- A **place in a text**: lines count from one, columns are the bytes since the last line feed. -/
structure Position where
  /-- The number of the line. -/
  line : Nat
  /-- The bytes read on that line. -/
  column : Nat
  deriving DecidableEq

namespace Json

/-! ### Texts that are no JSON -/

/-- Why a text is **no JSON text**. -/
inductive Malformation where
  /-- The text ends where a value is due. -/
  | endInValue
  /-- The text ends inside an array. -/
  | endInArray
  /-- The text ends inside an object. -/
  | endInObject
  /-- The text ends inside a string. -/
  | endInString
  /-- No value starts here. -/
  | noValue
  /-- A word other than `null`, `true` and `false`. -/
  | noWord
  /-- A key without a colon. -/
  | noColon
  /-- An item of an array followed by neither a comma nor the end. -/
  | noCommaInArray
  /-- A member of an object followed by neither a comma nor the end. -/
  | noCommaInObject
  /-- A comma before the end of an array or object. -/
  | trailingComma
  /-- A key that is no string. -/
  | keyNotString
  /-- Digits that make no number. -/
  | badNumber
  /-- A number beyond the greatest floating-point number. -/
  | numberTooLarge
  /-- A backslash followed by no escape. -/
  | badEscape
  /-- Half of a surrogate pair, or its halves in the wrong order. -/
  | loneSurrogate
  /-- The first half of a surrogate pair without an escape behind it. -/
  | unfinishedSurrogate
  /-- A control character inside a string. -/
  | controlCharacter
  /-- Bytes inside a string that make no character. -/
  | badUtf8
  /-- Something after the value. -/
  | trailingCharacters
  /-- Arrays and objects nested too deeply. -/
  | tooDeep
  deriving DecidableEq

/-- The wording of a malformation. -/
def Malformation.message : Malformation → String
  | .endInValue => "EOF while parsing a value"
  | .endInArray => "EOF while parsing a list"
  | .endInObject => "EOF while parsing an object"
  | .endInString => "EOF while parsing a string"
  | .noValue => "expected value"
  | .noWord => "expected ident"
  | .noColon => "expected `:`"
  | .noCommaInArray => "expected `,` or `]`"
  | .noCommaInObject => "expected `,` or `\x7d`"
  | .trailingComma => "trailing comma"
  | .keyNotString => "key must be a string"
  | .badNumber => "invalid number"
  | .numberTooLarge => "number out of range"
  | .badEscape => "invalid escape"
  | .loneSurrogate => "lone leading surrogate in hex escape"
  | .unfinishedSurrogate => "unexpected end of hex escape"
  | .controlCharacter => "control character (\\u0000-\\u001F) found while parsing a string"
  | .badUtf8 => "invalid unicode code point"
  | .trailingCharacters => "trailing characters"
  | .tooDeep => "recursion limit exceeded"

/-! ### Values of another kind -/

/-- What a value **was found to be**. -/
inductive Found where
  /-- The value `null`. -/
  | null
  /-- A truth value. -/
  | boolean (b : Bool)
  /-- A whole number. -/
  | integer (n : Int)
  /-- A floating-point number. -/
  | real (x : Float)
  /-- A string. -/
  | text (s : String)
  /-- An array. -/
  | sequence
  /-- An object. -/
  | map

/-- The wording of what was found. -/
def Found.describe : Found → String
  | .null => "null"
  | .boolean b => "boolean `" ++ (if b then "true" else "false") ++ "`"
  | .integer n => "integer `" ++ String.ofList (integerChars n) ++ "`"
  | .real x => "floating point `" ++ realText x ++ "`"
  | .text s => "string " ++ Text.quote s
  | .sequence => "sequence"
  | .map => "map"

/-- What a value is, seen from outside. -/
def found : Json → Found
  | .null => .null
  | .bool b => .boolean b
  | .integer n => .integer n
  | .real x => .real x.value
  | .text s => .text s
  | .array _ => .sequence
  | .object _ => .map

/-- What a reader **wants**. -/
inductive Wanted where
  /-- A string. -/
  | text
  /-- A truth value. -/
  | boolean
  /-- An array. -/
  | sequence
  /-- A whole number that fits a signed 64-bit word. -/
  | int64
  /-- A whole number that fits an unsigned 64-bit word. -/
  | nat64
  /-- A whole number that fits an unsigned 16-bit word. -/
  | nat16
  /-- An object with the fields of a record. -/
  | record (name : String)
  deriving DecidableEq

/-- The wording of what is wanted. -/
def Wanted.describe : Wanted → String
  | .text => "a string"
  | .boolean => "a boolean"
  | .sequence => "a sequence"
  | .int64 => "i64"
  | .nat64 => "u64"
  | .nat16 => "u16"
  | .record name => "struct " ++ name

/-- Why a value is **not what its reader wants**. -/
inductive Mismatch where
  /-- A value of another kind. -/
  | kind (found : Found) (wanted : Wanted)
  /-- A whole number that does not fit. -/
  | range (found : Int) (wanted : Wanted)
  /-- An object without a field that it must have. -/
  | missing (field : String)
  /-- An object with the same field twice. -/
  | duplicate (field : String)
  /-- An array of `length` items in place of a record of `fields` fields. -/
  | tooShort (length : Nat) (record : String) (fields : Nat)
  /-- An array of `length` items in place of a record of fewer fields. -/
  | tooLong (length : Nat)
  /-- A value that is neither a string nor a number. -/
  | noOperand

/-- The wording of a mismatch. -/
def Mismatch.message : Mismatch → String
  | .kind found wanted => "invalid type: " ++ found.describe ++ ", expected " ++ wanted.describe
  | .range found wanted =>
    "invalid value: " ++ (Found.integer found).describe ++ ", expected " ++ wanted.describe
  | .missing field => "missing field `" ++ field ++ "`"
  | .duplicate field => "duplicate field `" ++ field ++ "`"
  | .tooShort length record fields =>
    "invalid length " ++ toString length ++ ", expected struct " ++ record ++ " with " ++
      toString fields ++ (if fields = 1 then " element" else " elements")
  | .tooLong length =>
    "invalid length " ++ toString length ++ ", expected fewer elements in array"
  | .noOperand => "data did not match any variant of untagged enum Value"

/-! ### Faults -/

/-- The cause of a refusal. -/
inductive Cause where
  /-- The text is no JSON text. -/
  | malformed (m : Malformation)
  /-- A value is not what its reader wants. -/
  | mismatched (m : Mismatch)

/-- The wording of a cause. -/
def Cause.message : Cause → String
  | .malformed m => m.message
  | .mismatched m => m.message

/-- A step from a value to a part of it. -/
inductive Step where
  /-- To the member of that key. -/
  | key (k : String)
  /-- To the item of that index. -/
  | index (i : Nat)

/-- A **fault** of a document. -/
structure Fault where
  /-- What is wrong. -/
  cause : Cause
  /-- Where it was noticed, if a text was read. -/
  position : Option Position
  /-- The way to the value concerned. -/
  path : List Step

namespace Fault

/-- A malformation at a place. -/
def malformed (m : Malformation) (p : Position) : Fault := ⟨.malformed m, some p, []⟩

/-- A mismatch noticed while a text is read. -/
def mismatched (m : Mismatch) (p : Position) : Fault := ⟨.mismatched m, some p, []⟩

/-- A mismatch of a value that came from no text. -/
def unplaced (m : Mismatch) : Fault := ⟨.mismatched m, none, []⟩

/-- The same fault, seen from the value around it. -/
def within (s : Step) (f : Fault) : Fault := { f with path := s :: f.path }

/-- The text is no JSON text, whatever was wanted of it. -/
def isMalformed (f : Fault) : Bool :=
  match f.cause with
  | .malformed _ => true
  | .mismatched _ => false

/-- The **message** of a fault, with its place. -/
def message (f : Fault) : String :=
  match f.position with
  | none => f.cause.message
  | some p =>
    f.cause.message ++ " at line " ++ toString p.line ++ " column " ++ toString p.column

/-- A step in words, with a point before a key that is not the first step. -/
def stepText (first : Bool) : Step → String
  | .key k => if first then k else "." ++ k
  | .index i => "[" ++ toString i ++ "]"

/-- The way to the value concerned: keys behind points, indices in brackets. -/
def pathText (f : Fault) : String :=
  match f.path with
  | [] => ""
  | s :: rest => stepText true s ++ String.join (rest.map (stepText false))

end Fault

end Json

end Catalogue
