/-!
# Reading bytes as text

Bytes that are not valid UTF-8 are read all the same: each longest beginning of a character that
cannot be completed counts as one replacement character.

## Main definitions

* `Bytes`: a sequence of bytes
* `decodeLossy`: the text that bytes are read as
* `encode`: the bytes of a text
-/

namespace Conformance

/-- A sequence of bytes. -/
abbrev Bytes := List UInt8

namespace Text

/-- The character that stands for what cannot be read. -/
def replacement : Char := '\ufffd'

/-- How a character goes on behind its first byte: the bits that the first byte gives, the number of
bytes that follow, and the least and the greatest value of the first of them. -/
structure Lead where
  bits : Nat
  following : Nat
  least : UInt8
  greatest : UInt8

/-- What the first byte of a character of several bytes says about the others. -/
def lead? (b : UInt8) : Option Lead :=
  if 0xC2 ≤ b && b ≤ 0xDF then some ⟨b.toNat - 0xC0, 1, 0x80, 0xBF⟩
  else if b == 0xE0 then some ⟨0, 2, 0xA0, 0xBF⟩
  else if b == 0xED then some ⟨0xD, 2, 0x80, 0x9F⟩
  else if 0xE1 ≤ b && b ≤ 0xEF then some ⟨b.toNat - 0xE0, 2, 0x80, 0xBF⟩
  else if b == 0xF0 then some ⟨0, 3, 0x90, 0xBF⟩
  else if b == 0xF4 then some ⟨4, 3, 0x80, 0x8F⟩
  else if 0xF1 ≤ b && b ≤ 0xF3 then some ⟨b.toNat - 0xF0, 3, 0x80, 0xBF⟩
  else none

/-- The state between two bytes: between characters, or inside one with the bits so far, the number
of bytes due and the range of the next. -/
inductive Pending where
  | between
  | inside (bits due : Nat) (least greatest : UInt8)

/-- The state behind the first byte of a character. -/
def Lead.pending (l : Lead) : Pending :=
  .inside l.bits l.following l.least l.greatest

/-- Read a byte between characters: a character of one byte, the start of a longer one, or nothing
that can be read. -/
def startByte (b : UInt8) : List Char × Pending :=
  if b < 0x80 then ([Char.ofNat b.toNat], .between)
  else match lead? b with
    | some l => ([], l.pending)
    | none => ([replacement], .between)

/-- Read a byte. A byte that cannot go on an unfinished character begins the next one. -/
def stepByte (b : UInt8) : Pending → List Char × Pending
  | .between => startByte b
  | .inside bits due least greatest =>
    if least ≤ b && b ≤ greatest then
      let bits := bits * 64 + (b.toNat - 0x80)
      if due == 1 then ([Char.ofNat bits], .between)
      else ([], .inside bits (due - 1) 0x80 0xBF)
    else
      let (read, pending) := startByte b
      (replacement :: read, pending)

/-- The text of bytes in a state between two of them. -/
def decodeFrom : Pending → Bytes → List Char
  | .between, [] => []
  | .inside .., [] => [replacement]
  | pending, b :: bs =>
    let (read, next) := stepByte b pending
    read ++ decodeFrom next bs

/-- The text that bytes are read as. -/
def decodeLossy (bytes : Bytes) : String :=
  String.ofList (decodeFrom .between bytes)

/-- The bytes of a text. -/
def encode (s : String) : Bytes :=
  s.toUTF8.toList

end Text

end Conformance
