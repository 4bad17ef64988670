import Conformance.Json
import Conformance.Text.Alphanumeric

/-!
# Reading JSON

The value that a JSON text denotes: white space may stand between its parts and around it, but
nothing else. An integer is a number without a fraction and an exponent, but for a zero with a
sign. A string has no control characters in it; an escape by number may be one half of a character
only together with the other half.

Values are read by recursion on a bound for their nesting, and the elements of an array or the
members of an object on a bound for their number. The length of a text is a bound for both.

## Main definitions

* `Json.readString`, `Json.readNumber`, `Json.readValue`: the readers, which return the rest of the
  text with what they read
* `Json.read?`: the value of a whole text
-/

namespace Conformance.Json

open Text

/-- White space between the parts of a text. -/
def isSpace (c : Char) : Bool :=
  c == ' ' || c == '\n' || c == '\t' || c == '\r'

/-- The text without the white space at its start. -/
def skipSpace (cs : List Char) : List Char :=
  cs.dropWhile isSpace

/-! ## Strings -/

/-- The value of a hexadecimal digit. -/
def hexValue? (c : Char) : Option Nat :=
  if isAsciiDigit c then some (c.toNat - '0'.toNat)
  else if 'a' ≤ c ∧ c ≤ 'f' then some (c.toNat - 'a'.toNat + 10)
  else if 'A' ≤ c ∧ c ≤ 'F' then some (c.toNat - 'A'.toNat + 10)
  else none

/-- The number of four hexadecimal digits. -/
def readUnit : List Char → Option (Nat × List Char)
  | a :: b :: c :: d :: rest => do
    let a ← hexValue? a
    let b ← hexValue? b
    let c ← hexValue? c
    let d ← hexValue? d
    some (((a * 16 + b) * 16 + c) * 16 + d, rest)
  | _ => none

/-- The character of an escape by number, behind its `\u`. A character beyond the first 65536 has
two escapes, and neither of them may stand alone. -/
def readUnicode (cs : List Char) : Option (Char × List Char) := do
  let (first, rest) ← readUnit cs
  if first < 0xD800 ∨ 0xDFFF < first then some (Char.ofNat first, rest)
  else if 0xDC00 ≤ first then none
  else match rest with
    | '\\' :: 'u' :: rest => do
      let (second, rest) ← readUnit rest
      if 0xDC00 ≤ second ∧ second ≤ 0xDFFF then
        some (Char.ofNat (0x10000 + (first - 0xD800) * 0x400 + (second - 0xDC00)), rest)
      else none
    | _ => none

/-- What a backslash and another character stand for. -/
def unescape? : Char → Option Char
  | '"' => some '"'
  | '\\' => some '\\'
  | '/' => some '/'
  | 'b' => some '\x08'
  | 'f' => some '\x0c'
  | 'n' => some '\n'
  | 'r' => some '\r'
  | 't' => some '\t'
  | _ => none

/-- A character of a string. -/
def readChar : List Char → Option (Char × List Char)
  | [] => none
  | ['\\'] => none
  | '\\' :: 'u' :: rest => readUnicode rest
  | '\\' :: c :: rest => (unescape? c).map fun c => (c, rest)
  | c :: rest => if c.toNat < 0x20 then none else some (c, rest)

/-- The characters of a string up to its closing quote, no more than `fuel`. -/
def readChars : (fuel : Nat) → List Char → Option (List Char × List Char)
  | 0, _ => none
  | _ + 1, '"' :: rest => some ([], rest)
  | fuel + 1, cs => do
    let (c, rest) ← readChar cs
    let (s, rest) ← readChars fuel rest
    some (c :: s, rest)

/-- A string behind its opening quote. -/
def readString (cs : List Char) : Option (String × List Char) :=
  (readChars cs.length cs).map fun (s, rest) => (String.ofList s, rest)

/-! ## Numbers -/

/-- The digits at the start of a text, and the rest. -/
def readDigits (cs : List Char) : List Char × List Char :=
  (cs.takeWhile isAsciiDigit, cs.dropWhile isAsciiDigit)

/-- The fraction of a number, with its point, if there is one. -/
def readFraction : List Char → Option (List Char × List Char)
  | '.' :: cs =>
    let (digits, rest) := readDigits cs
    if digits = [] then none else some ('.' :: digits, rest)
  | cs => some ([], cs)

/-- The exponent of a number, with its letter and its sign, if there is one. -/
def readExponent : List Char → Option (List Char × List Char)
  | [] => some ([], [])
  | e :: cs =>
    if e = 'e' ∨ e = 'E' then
      let (sign, cs) := match cs with
        | '+' :: rest => (['+'], rest)
        | '-' :: rest => (['-'], rest)
        | rest => ([], rest)
      let (digits, rest) := readDigits cs
      if digits = [] then none else some (e :: sign ++ digits, rest)
    else some ([], e :: cs)

/-- A number behind its sign: its digits do not start with a zero, unless that is all of them. -/
def readUnsigned (negative : Bool) (cs : List Char) : Option (Json × List Char) := do
  let (digits, rest) := readDigits cs
  if digits = [] ∨ digits.head? = some '0' ∧ digits ≠ ['0'] then none
  else
    let (fraction, rest) ← readFraction rest
    let (exponent, rest) ← readExponent rest
    let value : Int := Nat.ofDigitChars 10 digits 0
    if fraction = [] ∧ exponent = [] ∧ ¬(negative ∧ digits = ['0']) then
      some (integer (if negative then -value else value), rest)
    else
      let sign := if negative then ['-'] else []
      some (decimal (String.ofList (sign ++ digits ++ fraction ++ exponent)), rest)

/-- A number, which may have a minus sign. -/
def readNumber : List Char → Option (Json × List Char)
  | '-' :: cs => readUnsigned true cs
  | cs => readUnsigned false cs

/-! ## Values -/

/-- Some parts with commas between them, at least one and no more than `fuel`, up to a closing
character. -/
def readParts {α : Type} (read : List Char → Option (α × List Char)) (close : Char) :
    (fuel : Nat) → List Char → Option (List α × List Char)
  | 0, _ => none
  | fuel + 1, cs => do
    let (a, rest) ← read cs
    match skipSpace rest with
    | [] => none
    | c :: rest =>
      if c = close then some ([a], rest)
      else if c = ',' then do
        let (as, rest) ← readParts read close fuel rest
        some (a :: as, rest)
      else none

/-- Any number of parts, up to a closing character. -/
def readAll {α : Type} (read : List Char → Option (α × List Char)) (close : Char) (fuel : Nat)
    (cs : List Char) : Option (List α × List Char) :=
  match skipSpace cs with
  | [] => none
  | c :: rest => if c = close then some ([], rest) else readParts read close fuel cs

/-- A member of an object: its name, a colon and its value. -/
def readMember (read : List Char → Option (Json × List Char)) (cs : List Char) :
    Option ((String × Json) × List Char) :=
  match skipSpace cs with
  | '"' :: rest => do
    let (name, rest) ← readString rest
    match skipSpace rest with
    | ':' :: rest => do
      let (value, rest) ← read rest
      some ((name, value), rest)
    | _ => none
  | _ => none

/-- A value, with white space before it. -/
def readValue : (fuel : Nat) → List Char → Option (Json × List Char)
  | 0, _ => none
  | fuel + 1, cs =>
    match skipSpace cs with
    | 'n' :: 'u' :: 'l' :: 'l' :: rest => some (null, rest)
    | 't' :: 'r' :: 'u' :: 'e' :: rest => some (boolean true, rest)
    | 'f' :: 'a' :: 'l' :: 's' :: 'e' :: rest => some (boolean false, rest)
    | '"' :: rest => (readString rest).map fun (s, rest) => (string s, rest)
    | '[' :: rest =>
      (readAll (readValue fuel) ']' fuel rest).map fun (items, rest) => (array items, rest)
    | '\x7b' :: rest =>
      (readAll (readMember (readValue fuel)) '\x7d' fuel rest).map fun (members, rest) =>
        (object members, rest)
    | rest => readNumber rest

/-- The value that a whole text denotes. -/
def read? (text : String) : Option Json := do
  let (v, rest) ← readValue (text.toList.length + 1) text.toList
  if skipSpace rest = [] then some v else none

end Conformance.Json
