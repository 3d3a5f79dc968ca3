import Catalogue.Json.Reader
import Catalogue.Word

/-!
# Decoding records

A `Catalogue.Json.Decoder` knows how to make a value of some type from JSON, in two ways: from a
JSON value that was read before (`Catalogue.Json.Decoder.ofValue`), and directly off a text
(`Catalogue.Json.Decoder.read`), where a fault of the text and a value of the wrong kind are noticed
in the order in which they stand.

A record is an object with its fields as members, in any order, or an array of its fields in their
own order (`Catalogue.Json.Decoder.record`). Members of other names are passed over. A field says
for each of the two forms whether it may be left out.
-/

namespace Catalogue

namespace Json

/-- How a value of a type is **made from JSON**. -/
structure Decoder (α : Type) where
  /-- From a value. -/
  ofValue : Json → Except Fault α
  /-- Off the front of a text, with as much fuel as it has symbols. -/
  read : Nat → Reader α

namespace Decoder

/-! ### Values without parts -/

/-- A value that is accepted or refused by what it is, an array or object whatever it holds. -/
def scalar {α : Type} (accept : Json → Except Mismatch α) : Decoder α where
  ofValue v :=
    match accept v with
    | .ok a => .ok a
    | .error m => .error (.unplaced m)
  read _ c :=
    match opening true c with
    | .error f => .error f
    | .ok (o, c) =>
      let v := match o with
        | .scalar v => v
        | .array => .array []
        | .object => .object []
      match accept v with
      | .ok a => .ok (a, c)
      | .error m => .error (.mismatched m c.position)

/-- A string. -/
def text : Decoder String := scalar fun
  | .text s => .ok s
  | v => .error (.kind v.found .text)

/-- A truth value. -/
def flag : Decoder Bool := scalar fun
  | .bool b => .ok b
  | v => .error (.kind v.found .boolean)

/-- A whole number of those that `accept` takes. -/
def whole {α : Type} (wanted : Wanted) (accept : Int → Option α) : Decoder α := scalar fun
  | .integer n =>
    match accept n with
    | some a => .ok a
    | none => .error (.range n wanted)
  | v => .error (.kind v.found wanted)

/-- A whole number that fits a signed 64-bit word. -/
def int64 : Decoder Int64 := whole .int64 fun n =>
  if Word.IsSigned n then some (Int64.ofInt n) else none

/-- A whole number that fits an unsigned 64-bit word. -/
def nat64 : Decoder UInt64 := whole .nat64 fun n =>
  if 0 ≤ n ∧ n < UInt64.size then some (UInt64.ofNat n.toNat) else none

/-- A whole number that fits an unsigned 16-bit word. -/
def nat16 : Decoder UInt16 := whole .nat16 fun n =>
  if 0 ≤ n ∧ n < UInt16.size then some (UInt16.ofNat n.toNat) else none

/-! ### Composite values -/

/-- Any value. -/
def any : Decoder Json where
  ofValue v := .ok v
  read fuel := value fuel depthLimit

/-- The value `null`, or another that the decoder takes. -/
def optional {α : Type} (d : Decoder α) : Decoder (Option α) where
  ofValue
    | .null => .ok none
    | v => (d.ofValue v).map some
  read fuel c :=
    let c := c.skipSpace
    if c.rest.head? = some (.char 'n') then
      match readWord .null ['u', 'l', 'l'] c.advance with
      | .error f => .error f
      | .ok (_, c) => .ok (none, c)
    else
      match d.read fuel c with
      | .error f => .error f
      | .ok (a, c) => .ok (some a, c)

/-- An array of values that the decoder takes. -/
def list {α : Type} (d : Decoder α) : Decoder (List α) where
  ofValue
    | .array items => items.mapM d.ofValue
    | v => .error (.unplaced (.kind v.found .sequence))
  read fuel c :=
    match opening true c with
    | .error f => .error f
    | .ok (.scalar v, c) => .error (.mismatched (.kind v.found .sequence) c.position)
    | .ok (.object, c) => .error (.mismatched (.kind .map .sequence) c.position)
    | .ok (.array, c) =>
      match foldItems (fun out c => match d.read fuel c with
          | .error f => .error f
          | .ok (a, c) => .ok (a :: out, c)) fuel 0 [] c.advance with
      | .error f => .error f
      | .ok (out, c) => .ok (out.reverse, c)

/-! ### Records -/

/-- A **field** of a record of type `σ`. -/
structure Field (σ : Type) where
  /-- The name of the field. -/
  name : String
  /-- How its value changes the record. -/
  decode : Decoder (σ → σ)
  /-- An object must have it. -/
  inObject : Bool
  /-- An array must have it. -/
  inArray : Bool

/-- A field that is put into the record by `put`. -/
def Field.of {σ α : Type} (name : String) (d : Decoder α) (put : α → σ → σ)
    (inObject inArray : Bool) : Field σ where
  name := name
  decode :=
    { ofValue := fun v => (d.ofValue v).map put
      read := fun fuel c =>
        match d.read fuel c with
        | .error f => .error f
        | .ok (a, c) => .ok (put a, c) }
  inObject := inObject
  inArray := inArray

/-- A field that may be left out. -/
def Field.free {σ α : Type} (name : String) (d : Decoder α) (put : α → σ → σ) : Field σ :=
  .of name d put false false

/-- A field that must be there. -/
def Field.required {σ α : Type} (name : String) (d : Decoder α) (put : α → σ → σ) : Field σ :=
  .of name d put true true

/-- The first field that an object must have and whose name is not among those given. -/
def missing? {σ : Type} (fields : List (Field σ)) (names : List String) : Option Mismatch :=
  (fields.find? fun f => f.inObject && !names.contains f.name).map fun f => .missing f.name

/-- The record that the members of an object make. -/
def ofMembers {σ : Type} (fields : List (Field σ)) :
    List (String × Json) → σ → Except Fault σ
  | [], a => .ok a
  | (key, v) :: rest, a =>
    match fields.find? (·.name = key) with
    | none => ofMembers fields rest a
    | some f =>
      match f.decode.ofValue v with
      | .error e => .error e
      | .ok put => ofMembers fields rest (put a)

/-- The record that the items of an array make, for its `index`-th field on. -/
def ofItems {σ : Type} (tooShort : Nat → Mismatch) (length : Nat) :
    Nat → List (Field σ) → List Json → σ → Except Fault σ
  | _, [], [], a => .ok a
  | _, [], _ :: _, _ => .error (.unplaced (.tooLong length))
  | index, f :: fields, [], a =>
    if f.inArray then .error (.unplaced (tooShort index))
    else ofItems tooShort length (index + 1) fields [] a
  | index, f :: fields, v :: items, a =>
    match f.decode.ofValue v with
    | .error e => .error e
    | .ok put => ofItems tooShort length (index + 1) fields items (put a)

/-- Read a member into a record whose keys so far are given. -/
def readMember {σ : Type} (fuel : Nat) (fields : List (Field σ)) (key : String) :
    List String × σ → Reader (List String × σ) := fun (names, a) c =>
  match fields.find? (·.name = key) with
  | none =>
    match skip fuel c with
    | .error e => .error e
    | .ok c => .ok ((names, a), c)
  | some f =>
    match f.decode.read fuel c with
    | .error e => .error e
    | .ok (put, c) => .ok ((key :: names, put a), c)

/-- Read the items of an array into a record, from its `index`-th field on. -/
def readItems {σ : Type} (fuel : Nat) (tooShort : Nat → Mismatch) :
    Nat → List (Field σ) → σ → Reader σ
  | _, [], a, c =>
    match endItems c with
    | .error e => .error e
    | .ok c => .ok (a, c)
  | index, f :: fields, a, c =>
    match nextItem (index = 0) c with
    | .error e => .error e
    | .ok none =>
      let missing := (f :: fields).findIdx? (·.inArray)
      match missing with
      | some i => .error (.mismatched (tooShort (index + i)) c.skipSpace.advance.position)
      | none => .ok (a, c.skipSpace.advance)
    | .ok (some c) =>
      match f.decode.read fuel c with
      | .error e => .error (e.within (.index index))
      | .ok (put, c) => readItems fuel tooShort (index + 1) fields (put a) c

/-- A **record**, made of an empty one by its fields. -/
def record {σ : Type} (name : String) (fields : List (Field σ)) (empty : σ) : Decoder σ where
  ofValue
    | .object members =>
      match ofMembers fields members empty with
      | .error e => .error e
      | .ok a =>
        match missing? fields (members.map (·.1)) with
        | some m => .error (.unplaced m)
        | none => .ok a
    | .array items =>
      ofItems (.tooShort · name fields.length) items.length 0 fields items empty
    | v => .error (.unplaced (.kind v.found (.record name)))
  read fuel c :=
    match opening true c with
    | .error e => .error e
    | .ok (.scalar v, c) => .error (.mismatched (.kind v.found (.record name)) c.position)
    | .ok (.array, c) =>
      readItems fuel (.tooShort · name fields.length) 0 fields empty c.advance
    | .ok (.object, c) =>
      match foldMembers
          (fun key (names, _) => if names.contains key then some (.duplicate key) else none)
          (readMember fuel fields) fuel true ([], empty) c.advance with
      | .error e => .error e
      | .ok ((names, a), c) =>
        match missing? fields names with
        | some m => .error (.mismatched m c.position)
        | none => .ok (a, c)

/-! ### Whole texts -/

/-- Decode a **whole sequence of symbols**. -/
def ofSymbols? {α : Type} (d : Decoder α) (symbols : List Symbol) : Except Fault α :=
  match d.read symbols.length (.start symbols) with
  | .error e => .error e
  | .ok (a, c) =>
    match noMore c with
    | .error e => .error e
    | .ok () => .ok a

/-- Decode a **whole text**. -/
def ofText? {α : Type} (d : Decoder α) (s : String) : Except Fault α :=
  d.ofSymbols? (Symbol.ofText s)

end Decoder

end Json

end Catalogue
