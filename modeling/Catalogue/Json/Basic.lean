/-!
# JSON values

`Catalogue.Json` is the type of JSON values. A number is either a whole number or a floating-point
number, and keeps which of the two it is; a floating-point number of a JSON value is always finite
(`Catalogue.FiniteFloat`), because no JSON text writes any other. The members of an object are a
list of pairs; the values that the reader makes have them in ascending order of their keys, each key
once (`Catalogue.Json.insertMember`).
-/

namespace Catalogue

/-- A **finite** floating-point number. -/
structure FiniteFloat where
  /-- The number. -/
  value : Float
  /-- It is neither infinite nor a NaN. -/
  finite : value.isFinite = true

namespace FiniteFloat

/-- A floating-point number, if it is finite. -/
def ofFloat? (x : Float) : Option FiniteFloat :=
  if h : x.isFinite = true then some ⟨x, h⟩ else none

/-- A finite number is found again from its value. -/
theorem ofFloat?_value (x : FiniteFloat) : ofFloat? x.value = some x := by
  rw [ofFloat?, dif_pos x.finite]

end FiniteFloat

/-- A **JSON value**. -/
inductive Json where
  /-- The value `null`. -/
  | null
  /-- A truth value. -/
  | bool (b : Bool)
  /-- A whole number. -/
  | integer (n : Int)
  /-- A number with a fraction or an exponent, or too large to be kept as a whole number. -/
  | real (x : FiniteFloat)
  /-- A string. -/
  | text (s : String)
  /-- An array. -/
  | array (items : List Json)
  /-- An object. -/
  | object (members : List (String × Json))

namespace Json

/-! ### Nesting -/

mutual

/-- How deep arrays and objects nest in a value. -/
def height : Json → Nat
  | .array items => itemsHeight items + 1
  | .object members => membersHeight members + 1
  | _ => 0

/-- How deep arrays and objects nest in the items of an array. -/
def itemsHeight : List Json → Nat
  | [] => 0
  | v :: rest => max v.height (itemsHeight rest)

/-- How deep arrays and objects nest in the members of an object. -/
def membersHeight : List (String × Json) → Nat
  | [] => 0
  | (_, v) :: rest => max v.height (membersHeight rest)

end

/-! ### Members of an object -/

/-- The value of a member; `none` if the key is absent. -/
def member? (key : String) : List (String × Json) → Option Json
  | [] => none
  | (k, v) :: rest => if k = key then some v else member? key rest

/-- Put a member in its place in the order of the keys; a member of the same key is replaced. -/
def insertMember (key : String) (value : Json) : List (String × Json) → List (String × Json)
  | [] => [(key, value)]
  | (k, v) :: rest =>
    if key < k then (key, value) :: (k, v) :: rest
    else if key = k then (key, value) :: rest
    else (k, v) :: insertMember key value rest

end Json

end Catalogue
