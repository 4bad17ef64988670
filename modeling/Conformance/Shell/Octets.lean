import Conformance.Text.Utf8

/-!
# Octets

Scripts are read and run byte by byte. A byte is shown as the character of its number, so that
scripts can be matched against characters; a character beyond ASCII shows as several of these.

## Main definitions

* `Octets`: bytes as characters
* `Octets.ofText`, `Octets.toText`: the bytes of a text, and the text that bytes are read as
* `Octets.decimal`, `Octets.integer?`: numbers in decimal digits
-/

namespace Conformance

/-- Bytes, each as the character of its number. -/
abbrev Octets := List Char

namespace Octets

/-- Bytes as characters. -/
def ofBytes (bytes : Bytes) : Octets :=
  bytes.map fun b => Char.ofNat b.toNat

/-- Characters as the bytes that they stand for. -/
def toBytes (s : Octets) : Bytes :=
  s.map fun c => UInt8.ofNat c.toNat

/-- The bytes of a text. -/
def ofText (s : String) : Octets :=
  ofBytes (Text.encode s)

/-- The text that bytes are read as. -/
def toText (s : Octets) : String :=
  Text.decodeLossy (toBytes s)

/-- A number in decimal digits. -/
def decimal (n : Int) : Octets :=
  (toString n).toList

/-- The value of digits to a base, up to the first character that is none. -/
def digitsValue (base : Nat) (s : Octets) : Nat :=
  (s.takeWhile fun c => '0' ≤ c && c.toNat < '0'.toNat + base).foldl
    (fun n c => n * base + (c.toNat - '0'.toNat)) 0

/-- The number that decimal digits, with or without a sign, stand for. -/
def integer? (s : Octets) : Option Int :=
  let (negative, digits) := match s with
    | '-' :: rest => (true, rest)
    | '+' :: rest => (false, rest)
    | rest => (false, rest)
  if !digits.isEmpty && digits.all Char.isDigit then
    let n : Int := digitsValue 10 digits
    some (if negative then -n else n)
  else none

end Octets

end Conformance
