import Catalogue.Json.Figure
import Catalogue.Json.Verbatim

/-!
# Reading JSON text

`Catalogue.Json.ofText?` reads a whole text into a value, and `Catalogue.Json.value` reads one off
the front of a text. A value begins with its opening (`Catalogue.Json.opening`), which is all of it
unless it is an array or an object; the loops over items and members, `Catalogue.Json.foldItems` and
`Catalogue.Json.foldMembers`, are shared with the readers of records, which fold other things out of
the same punctuation.

Arrays and objects nest at most `Catalogue.Json.depthLimit` deep. Every turn of a loop reads at
least one symbol, so that as much `fuel` as there are symbols always suffices.
-/

namespace Catalogue

namespace Json

/-! ### How a value begins -/

/-- How a value **begins**: with all of itself, or with the bracket of an array or object. -/
inductive Opening where
  /-- A value without parts. -/
  | scalar (v : Json)
  /-- An array. -/
  | array
  /-- An object. -/
  | object

/-- A scalar that was read. -/
def scalarOpening (r : Except Fault (Json × Cursor)) : Except Fault (Opening × Cursor) :=
  match r with
  | .error f => .error f
  | .ok (v, c) => .ok (.scalar v, c)

/-- Read a number behind its sign; a lax reader wants its digits only. -/
def readNumber (strict negative : Bool) : Reader Json := fun c =>
  if strict then Figure.readValue negative c
  else
    match Figure.read .badNumber negative c with
    | .error f => .error f
    | .ok (_, c) => .ok (.null, c)

/-- Read the **opening** of a value: a scalar whole, a bracket not at all. -/
def opening (strict : Bool) : Reader Opening := fun c =>
  let c := c.skipSpace
  match c.rest with
  | .char ch :: _ =>
    if ch = '[' then .ok (.array, c)
    else if ch = '\x7b' then .ok (.object, c)
    else if ch = '"' then
      match readString strict c.advance with
      | .error f => .error f
      | .ok (s, c) => .ok (.scalar (.text s), c)
    else if ch = 'n' then scalarOpening (readWord .null ['u', 'l', 'l'] c.advance)
    else if ch = 't' then scalarOpening (readWord (.bool true) ['r', 'u', 'e'] c.advance)
    else if ch = 'f' then scalarOpening (readWord (.bool false) ['a', 'l', 's', 'e'] c.advance)
    else if ch = '-' then scalarOpening (readNumber strict true c.advance)
    else if (Cursor.digit? ch).isSome then scalarOpening (readNumber strict false c)
    else c.faultNext .noValue
  | _ => c.refuse .endInValue .noValue

/-! ### Arrays -/

/-- The cursor at the **next item** of an array, or `none` at its end. -/
def nextItem (first : Bool) (c : Cursor) : Except Fault (Option Cursor) :=
  let c := c.skipSpace
  match c.rest with
  | .char ch :: _ =>
    if ch = ']' then .ok none
    else if first then .ok (some c)
    else if ch = ',' then
      let c := c.advance.skipSpace
      match c.rest with
      | [] => c.faultNext .endInValue
      | s :: _ => if s = .char ']' then c.faultNext .trailingComma else .ok (some c)
    else c.faultNext .noCommaInArray
  | [] => c.faultNext .endInArray
  | _ => if first then .ok (some c) else c.faultNext .noCommaInArray

/-- The cursor behind an array that has to end. -/
def endItems (c : Cursor) : Except Fault Cursor :=
  let c := c.skipSpace
  match c.rest with
  | [] => c.faultNext .endInArray
  | s :: _ =>
    if s = .char ']' then .ok c.advance
    else if s = .char ',' then
      let c := c.advance.skipSpace
      c.faultNext (if c.rest.head? = some (.char ']') then .trailingComma else .trailingCharacters)
    else c.faultNext .trailingCharacters

/-- **Fold over the items** of an array, from the `index`-th on, behind its bracket. -/
def foldItems {σ : Type} (read : σ → Reader σ) : Nat → Nat → σ → Reader σ
  | 0, _, _, c => c.faultNext .endInArray
  | fuel + 1, index, out, c =>
    match nextItem (index = 0) c with
    | .error f => .error f
    | .ok none => .ok (out, c.skipSpace.advance)
    | .ok (some c) =>
      match read out c with
      | .error f => .error (f.within (.index index))
      | .ok (out, c) => foldItems read fuel (index + 1) out c

/-! ### Objects -/

/-- The cursor at the **next key** of an object, behind its quote, or `none` at its end. -/
def nextKey (first : Bool) (c : Cursor) : Except Fault (Option Cursor) :=
  let c := c.skipSpace
  let key (c : Cursor) : Except Fault (Option Cursor) :=
    match c.rest with
    | [] => c.faultNext .endInValue
    | s :: _ =>
      if s = .char '"' then .ok (some c.advance)
      else if s = .char '\x7d' then c.faultNext .trailingComma
      else c.faultNext .keyNotString
  match c.rest with
  | [] => c.faultNext .endInObject
  | s :: _ =>
    if s = .char '\x7d' then .ok none
    else if first then key c
    else if s = .char ',' then key c.advance.skipSpace
    else c.faultNext .noCommaInObject

/-- The cursor behind the colon that is due after a key. -/
def colon (c : Cursor) : Except Fault Cursor :=
  let c := c.skipSpace
  if c.rest.head? = some (.char ':') then .ok c.advance else c.refuse .endInObject .noColon

/-- The cursor behind an object whose member was refused: its end is passed over if it comes
next. -/
def leaveObject (c : Cursor) : Cursor :=
  let c := c.skipSpace
  if c.rest.head? = some (.char '\x7d') then c.advance else c

/-- **Fold over the members** of an object, behind its bracket. A key is admitted or refused before
its colon is looked for. -/
def foldMembers {σ : Type} (refuse : String → σ → Option Mismatch) (read : String → σ → Reader σ) :
    Nat → Bool → σ → Reader σ
  | 0, _, _, c => c.faultNext .endInObject
  | fuel + 1, first, out, c =>
    match nextKey first c with
    | .error f => .error f
    | .ok none => .ok (out, c.skipSpace.advance)
    | .ok (some c) =>
      match readString true c with
      | .error f => .error f
      | .ok (key, c) =>
        match refuse key out with
        | some m => .error (.mismatched m (leaveObject c).position)
        | none =>
          match colon c with
          | .error f => .error f
          | .ok c =>
            match read key out c with
            | .error f => .error (f.within (.key key))
            | .ok (out, c) => foldMembers refuse read fuel false out c

/-! ### Values -/

/-- How deep arrays and objects may nest. -/
def depthLimit : Nat := 127

/-- Read a **value** off the front of a text, with arrays and objects nested at most `depth` deep.
The members of an object are put in the order of their keys, and the last of one key counts. -/
def value (fuel : Nat) : Nat → Reader Json
  | 0, c =>
    match opening true c with
    | .error f => .error f
    | .ok (.scalar v, c) => .ok (v, c)
    | .ok (_, c) => c.faultNext .tooDeep
  | depth + 1, c =>
    match opening true c with
    | .error f => .error f
    | .ok (.scalar v, c) => .ok (v, c)
    | .ok (.array, c) =>
      match foldItems (fun out c => match value fuel depth c with
          | .error f => .error f
          | .ok (v, c) => .ok (v :: out, c)) fuel 0 [] c.advance with
      | .error f => .error f
      | .ok (items, c) => .ok (.array items.reverse, c)
    | .ok (.object, c) =>
      match foldMembers (fun _ _ => none) (fun key out c => match value fuel depth c with
          | .error f => .error f
          | .ok (v, c) => .ok (insertMember key v out, c)) fuel true [] c.advance with
      | .error f => .error f
      | .ok (members, c) => .ok (.object members, c)

/-- Nothing but spaces may follow. -/
def noMore (c : Cursor) : Except Fault Unit :=
  let c := c.skipSpace
  match c.rest with
  | [] => .ok ()
  | _ => c.faultNext .trailingCharacters

/-- Read a value off the front of a sequence of symbols. -/
def front (symbols : List Symbol) : Except Fault (Json × Cursor) :=
  value symbols.length depthLimit (.start symbols)

/-- Read a **whole sequence of symbols** as a value. -/
def ofSymbols? (symbols : List Symbol) : Except Fault Json :=
  match front symbols with
  | .error f => .error f
  | .ok (v, c) =>
    match noMore c with
    | .error f => .error f
    | .ok () => .ok v

/-- Read a **whole text** as a value. -/
def ofText? (s : String) : Except Fault Json := ofSymbols? (Symbol.ofText s)

/-! ### Values that nobody wants -/

/-- Pass over what comes **before the value of a member**: a key and its colon. -/
def skipKey (c : Cursor) : Except Fault Cursor :=
  let c := c.skipSpace
  if c.rest.head? = some (.char '"') then
    match readString false c.advance with
    | .error f => .error f
    | .ok (_, c) => colon c
  else c.refuse .endInObject .keyNotString

/-- Pass over values, inside the arrays (`false`) and objects (`true`) of `around`, innermost first.
Either a value is due (`none`) or a comma or an end, a comma only if some item came before. -/
def skipFrom : Nat → List Bool → Option Bool → Cursor → Except Fault Cursor
  | 0, _, _, c => c.faultNext .endInValue
  | fuel + 1, around, none, c =>
    match opening false c with
    | .error f => .error f
    | .ok (.scalar _, c) => if around = [] then .ok c else skipFrom fuel around (some true) c
    | .ok (.array, c) => skipFrom fuel (false :: around) (some false) c.advance
    | .ok (.object, c) => skipFrom fuel (true :: around) (some false) c.advance
  | _ + 1, [], some _, c => .ok c
  | fuel + 1, inObject :: around, some comma, c =>
    let c := c.skipSpace
    let next (c : Cursor) : Except Fault Cursor :=
      if inObject then
        match skipKey c with
        | .error f => .error f
        | .ok c => skipFrom fuel (inObject :: around) none c
      else skipFrom fuel (inObject :: around) none c
    match c.rest with
    | [] => c.faultNext (if inObject then .endInObject else .endInArray)
    | s :: _ =>
      if s = .char ',' ∧ comma then next c.advance
      else if s = .char (if inObject then '\x7d' else ']') then
        if around = [] then .ok c.advance else skipFrom fuel around (some true) c.advance
      else if comma then
        c.faultNext (if inObject then .noCommaInObject else .noCommaInArray)
      else next c

/-- **Pass over a value**, of any depth. A bracket takes two turns of the loop. -/
def skip (fuel : Nat) (c : Cursor) : Except Fault Cursor := skipFrom (2 * fuel + 2) [] none c

end Json

end Catalogue
