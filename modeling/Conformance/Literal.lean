import Conformance.Pattern

/-!
# Literals

The values that a directive or a configuration probe may state: booleans, integers, strings, lists
of strings and patterns. Nothing else is a value, and nothing is ever evaluated.

## Main definitions

* `Literal`: the values
* `Literal.Kind`: their kinds, with the names used in messages
-/

namespace Conformance

/-- A value stated in a directive or by a probe. -/
inductive Literal where
  | boolean (value : Bool)
  | integer (value : Int64)
  | string (value : String)
  | list (values : List String)
  | pattern (value : Pattern)
deriving DecidableEq

namespace Literal

/-- The kinds of literals. -/
inductive Kind where
  | boolean
  | integer
  | string
  | list
  | pattern
deriving DecidableEq, Repr

/-- The name of a kind. -/
def Kind.name : Kind → String
  | boolean => "boolean"
  | integer => "integer"
  | string => "string"
  | list => "list"
  | pattern => "pattern"

/-- The kind of a literal. -/
def kind : Literal → Kind
  | boolean _ => .boolean
  | integer _ => .integer
  | string _ => .string
  | list _ => .list
  | pattern _ => .pattern

/-- The value of a boolean literal. -/
def boolean? : Literal → Option Bool
  | boolean value => some value
  | _ => none

/-- The value of an integer literal. -/
def integer? : Literal → Option Int64
  | integer value => some value
  | _ => none

/-- The value of a string literal. -/
def string? : Literal → Option String
  | string value => some value
  | _ => none

/-- The value of a list literal. -/
def list? : Literal → Option (List String)
  | list values => some values
  | _ => none

/-- The value of a pattern literal. -/
def pattern? : Literal → Option Pattern
  | pattern value => some value
  | _ => none

end Literal

end Conformance
