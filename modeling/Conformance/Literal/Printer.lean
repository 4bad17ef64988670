import Conformance.Literal

/-!
# Writing literals

The canonical text of a literal. Strings stand in single quotes, and the characters that could not
be read back are escaped.

## Main definitions

* `Literal.quoted`: a string in quotes
* `Literal.render`: a literal as text
* `Literal.exported`: a literal as the value of an environment variable
-/

namespace Conformance.Literal

/-- A character inside quotes. -/
def escapeChar : Char → List Char
  | '\\' => ['\\', '\\']
  | '\'' => ['\\', '\'']
  | '\n' => ['\\', 'n']
  | '\t' => ['\\', 't']
  | '\r' => ['\\', 'r']
  | c => [c]

/-- A text in single quotes. -/
def quoted (value : List Char) : List Char :=
  '\'' :: value.flatMap escapeChar ++ ['\'']

/-- Quoted strings with a comma and a space between any two. -/
def renderItems : List String → List Char
  | [] => []
  | [s] => quoted s.toList
  | s :: rest => quoted s.toList ++ ", ".toList ++ renderItems rest

/-- The canonical characters of a literal. -/
def renderChars : Literal → List Char
  | boolean true => "True".toList
  | boolean false => "False".toList
  | integer value => (toString value.toInt).toList
  | string value => quoted value.toList
  | list values => '[' :: renderItems values ++ [']']
  | pattern value => "re.compile(".toList ++ quoted value.source.toList ++ [')']

theorem renderChars_list (values : List String) :
    (list values).renderChars = '[' :: renderItems values ++ [']'] := rfl

theorem renderChars_pattern (p : Pattern) :
    (pattern p).renderChars = "re.compile(".toList ++ quoted p.source.toList ++ [')'] := rfl

/-- The canonical text of a literal. -/
def render (v : Literal) : String :=
  String.ofList v.renderChars

/-- The text of a literal in the environment of a process: a string stands bare, any other literal
is rendered. -/
def exported : Literal → String
  | string value => value
  | v => v.render

end Conformance.Literal
