/-!
# Symbols of a byte sequence

Bytes that a client sends need not be text. A `Catalogue.Symbol` is either a character or a *stray*:
a stretch of bytes that belongs to no character, as long as the longest start of one it makes up.
`Catalogue.Symbol.ofBytes` reads bytes into symbols by the table of well-formed UTF-8 sequences, and
every reader of client text works on the symbols, so that it counts bytes exactly and never has to
decode twice. `Catalogue.Text.lossy` replaces each stray by the replacement character.
-/

namespace Catalogue

/-- A **symbol** of a byte sequence. -/
inductive Symbol where
  /-- A well-formed character. -/
  | char (c : Char)
  /-- So many bytes that belong to no character. -/
  | stray (bytes : Nat)
  deriving DecidableEq

namespace Symbol

/-- The number of bytes that a symbol takes. -/
def size : Symbol → Nat
  | .char c => c.utf8Size
  | .stray n => n

/-- The symbols of a text: its characters. -/
def ofText (s : String) : List Symbol := s.toList.map .char

/-! ### Well-formed sequences -/

/-- What a lead byte announces: its share of the code point, how many bytes follow, and the least
and the greatest value of the first of those. -/
structure Lead where
  /-- The bits of the code point that the lead byte holds. -/
  bits : Nat
  /-- How many bytes follow. -/
  owed : Nat
  /-- The least value of the byte that follows. -/
  low : Nat
  /-- The greatest value of the byte that follows. -/
  high : Nat

/-- What a byte announces as the first of a character; `none` when no character starts with it. -/
def lead? (b : UInt8) : Option Lead :=
  let n := b.toNat
  if n < 0x80 then some ⟨n, 0, 0x80, 0xBF⟩
  else if n < 0xC2 then none
  else if n < 0xE0 then some ⟨n - 0xC0, 1, 0x80, 0xBF⟩
  else if n = 0xE0 then some ⟨0, 2, 0xA0, 0xBF⟩
  else if n = 0xED then some ⟨0xD, 2, 0x80, 0x9F⟩
  else if n < 0xF0 then some ⟨n - 0xE0, 2, 0x80, 0xBF⟩
  else if n = 0xF0 then some ⟨0, 3, 0x90, 0xBF⟩
  else if n < 0xF4 then some ⟨n - 0xF0, 3, 0x80, 0xBF⟩
  else if n = 0xF4 then some ⟨4, 3, 0x80, 0x8F⟩
  else none

/-- Where the reading of bytes stands: between characters, or inside one, with the bits so far, the
bytes it has taken and what it still asks for. -/
inductive Progress where
  /-- Between two characters. -/
  | between
  /-- Inside a character. -/
  | inside (bits taken owed low high : Nat)

/-- Start a character, or note a byte that starts none. The symbols so far are in reverse. -/
def start (b : UInt8) (out : List Symbol) : Progress × List Symbol :=
  match lead? b with
  | none => (.between, .stray 1 :: out)
  | some l =>
    if l.owed = 0 then (.between, .char (Char.ofNat l.bits) :: out)
    else (.inside l.bits 1 l.owed l.low l.high, out)

/-- Take one byte. A byte that cannot continue the character ends it as a stray and is looked at
again as the first of another. -/
def step (state : Progress × List Symbol) (b : UInt8) : Progress × List Symbol :=
  match state with
  | (.between, out) => start b out
  | (.inside bits taken owed low high, out) =>
    if low ≤ b.toNat ∧ b.toNat ≤ high then
      let bits := bits * 64 + (b.toNat - 0x80)
      if owed ≤ 1 then (.between, .char (Char.ofNat bits) :: out)
      else (.inside bits (taken + 1) (owed - 1) 0x80 0xBF, out)
    else start b (.stray taken :: out)

/-- The symbols of a byte sequence. -/
def ofBytes (bytes : List UInt8) : List Symbol :=
  match bytes.foldl step (.between, []) with
  | (.between, out) => out.reverse
  | (.inside _ taken _ _ _, out) => (.stray taken :: out).reverse

/-! ### Flaws -/

/-- Where a byte sequence stops being text. -/
structure Flaw where
  /-- How many bytes before are well formed. -/
  index : Nat
  /-- How many bytes make up the first stray; none if it is the start of a character that the end
  of the bytes cuts off. -/
  size : Option Nat
  deriving DecidableEq

/-- The wording of a flaw. -/
def Flaw.message (f : Flaw) : String :=
  match f.size with
  | some n =>
    "invalid utf-8 sequence of " ++ toString n ++ " bytes from index " ++ toString f.index
  | none => "incomplete utf-8 byte sequence from index " ++ toString f.index

/-- The first stray behind so many bytes. -/
def firstStray? (index : Nat) : List Symbol → Option Flaw
  | [] => none
  | .char c :: rest => firstStray? (index + c.utf8Size) rest
  | .stray n :: _ => some ⟨index, some n⟩

/-- The **flaw** of a byte sequence, if it is no text. -/
def flaw? (bytes : List UInt8) : Option Flaw :=
  let (progress, out) := bytes.foldl step (.between, [])
  match firstStray? 0 out.reverse, progress with
  | some f, _ => some f
  | none, .inside _ taken _ _ _ => some ⟨bytes.length - taken, none⟩
  | none, .between => none

/-! ### Back to text -/

/-- The characters of the symbols, if none of them is a stray. -/
def chars? (symbols : List Symbol) : Option (List Char) :=
  symbols.mapM fun
    | .char c => some c
    | .stray _ => none

end Symbol

namespace Text

/-- The text of a byte sequence, if every byte belongs to a character. -/
def ofBytes? (bytes : List UInt8) : Option String :=
  (Symbol.chars? (Symbol.ofBytes bytes)).map String.ofList

/-- The text of a byte sequence with U+FFFD in place of each stray. -/
def lossy (bytes : List UInt8) : String :=
  String.ofList <| (Symbol.ofBytes bytes).map fun
    | .char c => c
    | .stray _ => Char.ofNat 0xFFFD

/-- The bytes of a text. -/
def bytes (s : String) : List UInt8 := s.toUTF8.toList

end Text

end Catalogue
