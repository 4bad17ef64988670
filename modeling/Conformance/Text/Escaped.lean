import Conformance.Text.Category

/-!
# Escaped text

A text in double quotes in which every character that could be misread is escaped.

## Main definitions

* `escaped`: the text in quotes
-/

namespace Conformance.Text

/-- The hexadecimal digits of a number, in lower case. -/
def hexDigits (n : Nat) : List Char :=
  Nat.toDigits 16 n

/-- A character in escaped text: the usual short escapes, a code point in braces for what has no
shape of its own, and the character itself otherwise. -/
def escapedChar (c : Char) : List Char :=
  match c with
  | '\x00' => ['\\', '0']
  | '\t' => ['\\', 't']
  | '\r' => ['\\', 'r']
  | '\n' => ['\\', 'n']
  | '\\' => ['\\', '\\']
  | '"' => ['\\', '"']
  | c => if isGraphic c then [c] else "\\u\x7b".toList ++ hexDigits c.toNat ++ "\x7d".toList

/-- The text in double quotes, escaped. -/
def escaped (s : String) : String :=
  String.ofList ('"' :: s.toList.flatMap escapedChar ++ ['"'])

end Conformance.Text
