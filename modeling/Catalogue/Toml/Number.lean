import Catalogue.Decimal.Numeral
import Catalogue.Settings.Tree
import Catalogue.Toml.Scanner
import Catalogue.Word

/-!
# Numbers and dates of a settings file

A number is whole or a floating-point number, in decimal digits or behind `0x`, `0o` and `0b` in
others, and underscores may stand between its digits. Dates and times are read as far as that they
are well formed; no setting is one.
-/

namespace Catalogue

namespace Toml

open Settings (Tree)

/-! ### Digits -/

/-- The value of a digit of a base. -/
def digit? (base : Nat) (c : Char) : Option Nat := (Json.hexValue? c).filter (· < base)

/-- Digits of a base behind the first one; an underscore stands between two digits. -/
def moreDigits (base : Nat) : List Nat → List Char → List Nat × List Char
  | ds, [] => (ds.reverse, [])
  | ds, [c] =>
    match digit? base c with
    | some d => ((d :: ds).reverse, [])
    | none => (ds.reverse, [c])
  | ds, c :: e :: rest =>
    match digit? base c, digit? base e with
    | some d, _ => moreDigits base (d :: ds) (e :: rest)
    | none, some d =>
      if c = '_' then moreDigits base (d :: ds) rest else (ds.reverse, c :: e :: rest)
    | none, none => (ds.reverse, c :: e :: rest)

/-- One or more digits of a base. -/
def digits? (base : Nat) : Scanner (List Nat)
  | [] => none
  | c :: rest => (digit? base c).map fun d => moreDigits base [d] rest

/-- The number that digits write. -/
def number (base : Nat) (ds : List Nat) : Nat := ds.foldl (fun n d => n * base + d) 0

/-- A sign, if there is one: whether it is a minus. -/
def sign (cs : List Char) : Bool × List Char :=
  match cs with
  | '+' :: rest => (false, rest)
  | '-' :: rest => (true, rest)
  | _ => (false, cs)

/-- The digits before a point: a zero stands alone. -/
def wholeDigits? (cs : List Char) : Option (List Nat × List Char) :=
  match cs with
  | '0' :: rest => some ([0], rest)
  | _ => digits? 10 cs

/-! ### Numbers -/

/-- A whole number that fits a signed 64-bit word. -/
def fits? (n : Int) : Option Tree :=
  if Word.IsSigned n then some (.signed n) else none

/-- The digits behind a point, if there is one. -/
def fraction? (cs : List Char) : Option (List Nat × List Char) :=
  match cs with
  | '.' :: rest => digits? 10 rest
  | _ => some ([], cs)

/-- An exponent, if there is one. -/
def exponent? (cs : List Char) : Option (Option Int × List Char) :=
  match cs with
  | c :: rest =>
    if c = 'e' ∨ c = 'E' then
      let (negative, rest) := sign rest
      (digits? 10 rest).map fun (ds, rest) =>
        (some (if negative then -(number 10 ds : Int) else number 10 ds), rest)
    else some (none, cs)
  | [] => some (none, [])

/-- A number in decimal digits. A floating-point number may not be too large; one too far below
zero becomes negative infinity. -/
def decimal? (cs : List Char) : Option (Tree × List Char) :=
  let (negative, body) := sign cs
  match wholeDigits? body with
  | none => none
  | some (whole, rest) =>
    let asWhole (rest : List Char) : Option (Tree × List Char) :=
      (fits? (if negative then -(number 10 whole : Int) else number 10 whole)).map (·, rest)
    match fraction? rest with
    | none => asWhole rest
    | some (fraction, behind) =>
      let e := exponent? behind
      match fraction, e with
      | [], none => asWhole rest
      | [], some (none, _) => asWhole rest
      | _, none => real negative whole fraction none behind
      | _, some (exponent, behind) => real negative whole fraction exponent behind
where
  /-- The floating-point number of its parts. -/
  real (negative : Bool) (whole fraction : List Nat) (exponent : Option Int) (rest : List Char) :
      Option (Tree × List Char) :=
    let x := Numeral.nearest
      ⟨negative, number 10 (whole ++ fraction), exponent.getD 0 - fraction.length⟩
    if x == Numeral.infinity then none else some (.real x, rest)

/-- A number that is not finite, behind its sign. -/
def special? (negative : Bool) (cs : List Char) : Option (Tree × List Char) :=
  match cs with
  | 'i' :: 'n' :: 'f' :: rest =>
    some (.real (if negative then -Numeral.infinity else Numeral.infinity), rest)
  | 'n' :: 'a' :: 'n' :: rest => some (.real (0.0 / 0.0), rest)
  | _ => none

/-- A whole number in digits of another base. -/
def based? (base : Nat) (cs : List Char) : Option (Tree × List Char) :=
  (digits? base cs).bind fun (ds, rest) => (fits? (number base ds)).map (·, rest)

/-- A **number**. -/
def number? (cs : List Char) : Option (Tree × List Char) :=
  match cs with
  | '0' :: 'x' :: rest => based? 16 rest
  | '0' :: 'o' :: rest => based? 8 rest
  | '0' :: 'b' :: rest => based? 2 rest
  | _ =>
    let (negative, body) := sign cs
    match special? negative body with
    | some r => some r
    | none => decimal? cs

/-! ### Dates -/

/-- So many decimal digits. -/
def fixed? (count : Nat) (cs : List Char) : Option (Nat × List Char) :=
  let ds := (cs.take count).filterMap Json.Cursor.digit?
  if ds.length = count then some (number 10 ds, cs.drop count) else none

/-- The days of a month. -/
def daysIn (year month : Nat) : Nat :=
  if month = 2 then
    if year % 4 = 0 ∧ (year % 100 ≠ 0 ∨ year % 400 = 0) then 29 else 28
  else if month = 4 ∨ month = 6 ∨ month = 9 ∨ month = 11 then 30
  else 31

/-- A day. -/
def day? (cs : List Char) : Option (List Char) := do
  let (year, cs) ← fixed? 4 cs
  let cs ← Text.past? ['-'] cs
  let (month, cs) ← fixed? 2 cs
  let cs ← Text.past? ['-'] cs
  let (day, cs) ← fixed? 2 cs
  if 1 ≤ month ∧ month ≤ 12 ∧ 1 ≤ day ∧ day ≤ daysIn year month then some cs else none

/-- A time of a day. -/
def time? (cs : List Char) : Option (List Char) := do
  let (hour, cs) ← fixed? 2 cs
  let cs ← Text.past? [':'] cs
  let (minute, cs) ← fixed? 2 cs
  let cs ← Text.past? [':'] cs
  let (second, cs) ← fixed? 2 cs
  if hour ≤ 23 ∧ minute ≤ 59 ∧ second ≤ 60 then
    match cs with
    | '.' :: rest =>
      if (rest.head?.bind Json.Cursor.digit?).isSome then
        some (rest.dropWhile fun c => (Json.Cursor.digit? c).isSome)
      else some cs
    | _ => some cs
  else none

/-- What a time is reckoned from, if it is said. -/
def offset (cs : List Char) : List Char :=
  match cs with
  | 'Z' :: rest => rest
  | 'z' :: rest => rest
  | c :: rest =>
    if c = '+' ∨ c = '-' then
      (do
        let (hour, cs) ← fixed? 2 rest
        let cs ← Text.past? [':'] cs
        let (minute, cs) ← fixed? 2 cs
        if hour ≤ 23 ∧ minute ≤ 59 then some cs else none).getD cs
    else cs
  | [] => []

/-- The rest behind a date, a time or both. -/
def behindDate? (cs : List Char) : Option (List Char) :=
  match day? cs with
  | none => time? cs
  | some rest =>
    match rest with
    | [] => some []
    | c :: more =>
      if c = 'T' ∨ c = 't' ∨ c = ' ' then
        match time? more with
        | some rest => some (offset rest)
        | none => some rest
      else some rest

/-- The name under which a date is kept. -/
def dateName : String := "$__toml_private_datetime"

/-- A **date, a time or both**, as a table with the text of it. -/
def date? (cs : List Char) : Option (Tree × List Char) :=
  (behindDate? cs).map fun rest =>
    (.table [(dateName, .text (String.ofList (cs.take (cs.length - rest.length))))], rest)

end Toml

end Catalogue
