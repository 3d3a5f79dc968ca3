import Catalogue.Json.Cursor

/-!
# Strings and words of a JSON text

`Catalogue.Json.stringBody` reads a string behind its opening quote, one symbol at a time. What it
is in the middle of is a `Catalogue.Json.Escape`: nothing, a backslash, the four hexadecimal digits
of a code unit, or the way from the first half of a surrogate pair to its second.

A reader that has no use for the string is *lax*: it wants escapes to be well formed and nothing
more, whereas a strict one also refuses halves of surrogate pairs, and, at the closing quote, bytes
that make no character. The place of the first such byte is counted back from behind the closing
quote, in bytes of what the string stands for: an escape counts as much as its character does.
-/

namespace Catalogue

namespace Json

/-! ### Escapes -/

/-- The value of a hexadecimal digit, in either letter case. -/
def hexValue? (c : Char) : Option Nat :=
  if '0' ≤ c ∧ c ≤ '9' then some (c.toNat - 48)
  else if 'a' ≤ c ∧ c ≤ 'f' then some (c.toNat - 87)
  else if 'A' ≤ c ∧ c ≤ 'F' then some (c.toNat - 55)
  else none

/-- What a letter behind a backslash stands for. -/
def escapeLetter? (c : Char) : Option Char :=
  if c = '"' ∨ c = '\\' ∨ c = '/' then some c
  else if c = 'b' then some (Char.ofNat 0x08)
  else if c = 'f' then some (Char.ofNat 0x0C)
  else if c = 'n' then some '\n'
  else if c = 'r' then some '\r'
  else if c = 't' then some '\t'
  else none

/-- What the reading of a string is **in the middle of**. -/
inductive Escape where
  /-- Of no escape. -/
  | outside
  /-- Behind a backslash. -/
  | letter
  /-- Inside the digits of a code unit: `owed` bytes of it are to come, `value` is what the others
  write, if they are digits. With `high` it is the second half of a surrogate pair. -/
  | digits (high : Option Nat) (owed : Nat) (value : Option Nat)
  /-- Behind the first half of a surrogate pair. -/
  | half (high : Nat)
  /-- Behind the first half of a surrogate pair and a backslash. -/
  | halfLetter (high : Nat)

/-- What four hexadecimal digits make of a string: a character and the end of the escape, the first
half of a pair, or nothing. -/
inductive Unit16 where
  /-- A character. -/
  | char (c : Char)
  /-- The first half of a surrogate pair. -/
  | high (n : Nat)
  /-- A half without its other. -/
  | lone

/-- What a code unit makes, behind the first half of a pair if `high` is given. -/
def unit16 (high : Option Nat) (n : Nat) : Unit16 :=
  match high with
  | none =>
    if 0xDC00 ≤ n ∧ n ≤ 0xDFFF then .lone
    else if 0xD800 ≤ n ∧ n ≤ 0xDBFF then .high n
    else .char (Char.ofNat n)
  | some h =>
    if 0xDC00 ≤ n ∧ n ≤ 0xDFFF then
      .char (Char.ofNat (0x10000 + (h - 0xD800) * 0x400 + (n - 0xDC00)))
    else .lone

/-! ### Strings -/

/-- The **rest of a string**. `out` holds its characters so far, in reverse, and `tail` how many
bytes it stands for from the first one on that makes no character, if there is one. -/
def stringBody (strict : Bool) (e : Escape) (out : List Char) (tail : Option Nat) :
    List Symbol → Position → Except Fault (String × Cursor)
  | [], p => .error (.malformed .endInString p)
  | s :: rest, p =>
    let c := match s with
      | .char c => c
      | .stray _ => Char.ofNat 0xFFFD
    let longer (d : Char) : Option Nat := tail.map (· + d.utf8Size)
    match e with
    | .outside =>
      match s with
      | .stray _ =>
        stringBody strict .outside (c :: out) (some (tail.getD 0 + s.size)) rest (p.after s)
      | .char c =>
        if c = '"' then
          match tail with
          | none => .ok (String.ofList out.reverse, ⟨rest, p.after s⟩)
          | some n =>
            if strict then .error (.malformed .badUtf8 ((p.after s).before n))
            else .ok (String.ofList out.reverse, ⟨rest, p.after s⟩)
        else if c = '\\' then stringBody strict .letter out tail rest (p.after s)
        else if c.toNat < 0x20 then .error (.malformed .controlCharacter (p.after s))
        else stringBody strict .outside (c :: out) (longer c) rest (p.after s)
    | .letter =>
      if c = 'u' then stringBody strict (.digits none 4 (some 0)) out tail rest (p.after s)
      else
        match escapeLetter? c with
        | some d => stringBody strict .outside (d :: out) (longer d) rest (p.after s)
        | none => .error (.malformed .badEscape (p.into s 1))
    | .digits high owed value =>
      let value := value.bind fun n => (hexValue? c).map fun d => n * 16 + d
      if s.size < owed then
        stringBody strict (.digits high (owed - s.size) value) out tail rest (p.after s)
      else
        match value with
        | none => .error (.malformed .badEscape (p.into s owed))
        | some n =>
          if !strict then stringBody strict .outside (c :: out) tail rest (p.after s)
          else
            match unit16 high n with
            | .char d => stringBody strict .outside (d :: out) (longer d) rest (p.after s)
            | .high n => stringBody strict (.half n) out tail rest (p.after s)
            | .lone => .error (.malformed .loneSurrogate (p.after s))
    | .half high =>
      if c = '\\' then stringBody strict (.halfLetter high) out tail rest (p.after s)
      else .error (.malformed .unfinishedSurrogate (p.into s 1))
    | .halfLetter high =>
      if c = 'u' then stringBody strict (.digits (some high) 4 (some 0)) out tail rest (p.after s)
      else .error (.malformed .unfinishedSurrogate (p.into s 1))

/-- Read a **string** behind its opening quote. -/
def readString (strict : Bool) : Reader String := fun c =>
  stringBody strict .outside [] none c.rest c.position

/-! ### Words -/

/-- Read the letters of a word that is due. -/
def readWord (v : Json) : List Char → Reader Json
  | [], c => .ok (v, c)
  | l :: ls, c =>
    match c.rest with
    | .char d :: _ => if d = l then readWord v ls c.advance else c.faultNext .noWord
    | _ => c.refuse .endInValue .noWord

end Json

end Catalogue
