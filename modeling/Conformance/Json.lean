/-!
# JSON values

JSON values and their text with one member or element per line.

## Main definitions

* `Json`: the values
* `Json.member?`: a member of an object
* `Json.parts?`: the parts of a record
* `Json.pretty`: the text of a value
-/

namespace Conformance

/-- JSON values. Numbers that are no integers are kept as text. -/
inductive Json where
  | null
  | boolean (b : Bool)
  | integer (n : Int)
  | decimal (text : String)
  | string (s : String)
  | array (items : List Json)
  | object (members : List (String × Json))
deriving Inhabited

namespace Json

/-- The member of an object with a given name, which may not be there twice. -/
def member? : Json → String → Option Json
  | object members, name =>
    match members.filter fun m => m.1 = name with
    | [(_, value)] => some value
    | _ => none
  | _, _ => none

/-- The parts of a record by their names: the members of an object, or the elements of an array of
as many. -/
def parts? (names : List String) : Json → Option (List Json)
  | array items => if items.length = names.length then some items else none
  | j => names.mapM j.member?

/-- The text of a string value. -/
def string? : Json → Option String
  | string s => some s
  | _ => none

/-- The natural number of a value. -/
def natural? : Json → Option Nat
  | integer (.ofNat n) => some n
  | _ => none

/-- The elements of an array. -/
def items? : Json → Option (List Json)
  | array items => some items
  | _ => none

/-- The value of a boolean value. -/
def boolean? : Json → Option Bool
  | boolean b => some b
  | _ => none

/-- The name of a case without parts: a text, or an object whose only member has that name and is
null. -/
def tag? : Json → Option String
  | string s => some s
  | object [(name, null)] => some name
  | _ => none

/-- A hexadecimal digit. -/
def hexDigit (n : Nat) : Char :=
  if n < 10 then Char.ofNat ('0'.toNat + n) else Char.ofNat ('a'.toNat + (n - 10))

/-- A character inside a string: short escapes where there are any, four hexadecimal digits for the
other control characters. -/
def escapeChar (c : Char) : List Char :=
  match c with
  | '"' => ['\\', '"']
  | '\\' => ['\\', '\\']
  | '\x08' => ['\\', 'b']
  | '\x0c' => ['\\', 'f']
  | '\n' => ['\\', 'n']
  | '\r' => ['\\', 'r']
  | '\t' => ['\\', 't']
  | c =>
    if c.toNat < 0x20 then
      ['\\', 'u', '0', '0', hexDigit (c.toNat / 16), hexDigit (c.toNat % 16)]
    else [c]

/-- A string in double quotes. -/
def quoted (s : String) : List Char :=
  '"' :: s.toList.flatMap escapeChar ++ ['"']

/-- The start of a line: two blanks for every level. -/
def newline (level : Nat) : List Char :=
  '\n' :: List.replicate (2 * level) ' '

mutual

/-- The text of a value at a level of nesting. -/
def prettyAt (level : Nat) : Json → List Char
  | null => "null".toList
  | boolean true => "true".toList
  | boolean false => "false".toList
  | integer n => (toString n).toList
  | decimal text => text.toList
  | string s => quoted s
  | array [] => "[]".toList
  | array (item :: items) =>
    '[' :: newline (level + 1) ++ prettyAt (level + 1) item ++ prettyItems (level + 1) items ++
      newline level ++ [']']
  | object [] => "\x7b\x7d".toList
  | object ((name, value) :: members) =>
    '\x7b' :: newline (level + 1) ++ quoted name ++ ": ".toList ++ prettyAt (level + 1) value ++
      prettyMembers (level + 1) members ++ newline level ++ ['\x7d']

/-- Further elements of an array, each behind a comma and on a line of its own. -/
def prettyItems (level : Nat) : List Json → List Char
  | [] => []
  | item :: items => ',' :: newline level ++ prettyAt level item ++ prettyItems level items

/-- Further members of an object, each behind a comma and on a line of its own. -/
def prettyMembers (level : Nat) : List (String × Json) → List Char
  | [] => []
  | (name, value) :: members =>
    ',' :: newline level ++ quoted name ++ ": ".toList ++ prettyAt level value ++
      prettyMembers level members

end

/-- The text of a value. -/
def pretty (v : Json) : String :=
  String.ofList (prettyAt 0 v)

end Json

end Conformance
