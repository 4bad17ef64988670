import Conformance.Path
import Conformance.Literal.Parser

/-!
# Directives

A directive is a line `-- key: value` at the head of a test input. The directives of an input are
its longest run of leading lines of that shape; a line of another shape ends the run for good.

## Main definitions

* `Directive.splitLine`: the key of a line of the right shape, and what stands behind its colon
* `Directive.block`: the leading lines of the right shape
* `Directive.parse`: the directives of a text
-/

namespace Conformance

/-- What a recognised key wants for its value. -/
inductive Expected where
  | list
  | string
  | pattern
  | integer
  | exitStatus
  | boolean
deriving DecidableEq, Repr

/-- The wording of what is wanted. -/
def Expected.phrase : Expected → String
  | list => "a list of strings"
  | string => "a string"
  | pattern => "a pattern"
  | integer => "an integer"
  | exitStatus => "an exit status"
  | boolean => "a boolean"

/-- One directive: its key, its value and the number of its line, counted from one. -/
structure Directive where
  key : String
  value : Literal
  line : Nat
deriving DecidableEq

namespace Directive

open Text

/-- What is wrong with a directive. -/
inductive Problem where
  /-- The value is no literal. -/
  | malformed (key : String) (error : Literal.Error)
  /-- The value is of the wrong kind for its key. -/
  | wrongKind (key : String) (expected : Expected) (found : Literal.Kind)
deriving DecidableEq

/-- The text of a problem. -/
def Problem.message : Problem → String
  | malformed key error => key ++ ": " ++ error.message
  | wrongKind key expected found =>
    key ++ " expects " ++ expected.phrase ++ ", found " ++ found.name

/-- A problem and the number of its line. -/
structure Error where
  line : Nat
  problem : Problem
deriving DecidableEq

/-- A character that may begin a key. -/
def beginsKey (c : Char) : Bool :=
  isAsciiLetter c || c == '_'

/-- A key and what follows its colon, at the start of a text. -/
def splitKey : List Char → Option (List Char × List Char)
  | [] => none
  | c :: cs =>
    if beginsKey c then
      match trimStart (cs.dropWhile isWordChar) with
      | ':' :: rest => some (c :: cs.takeWhile isWordChar, rest)
      | _ => none
    else none

/-- The key and the rest of a line of the shape blanks, two hyphens, blanks, key, blanks, colon,
rest. A key is an ASCII letter or an underscore followed by word characters. -/
def splitLine (line : List Char) : Option (List Char × List Char) :=
  match trimStart line with
  | '-' :: '-' :: cs => splitKey (trimStart cs)
  | _ => none

/-- The leading lines that have the shape of a directive, split. -/
def block (lines : List (List Char)) : List (List Char × List Char) :=
  match lines with
  | [] => []
  | line :: rest =>
    match splitLine line with
    | some entry => entry :: block rest
    | none => []

/-- The directives of split lines, of which the first has the number `line`. -/
def ofBlock (line : Nat) : List (List Char × List Char) → Except Error (List Directive)
  | [] => .ok []
  | (key, rest) :: entries =>
    match Literal.parseChars (trim rest) with
    | .error e => .error ⟨line, .malformed (String.ofList key) e⟩
    | .ok value =>
      match ofBlock (line + 1) entries with
      | .error e => .error e
      | .ok directives => .ok (⟨String.ofList key, value, line⟩ :: directives)

/-- The directives at the head of a text. -/
def parse (text : String) : Except Error (List Directive) :=
  ofBlock 1 (block (lines text.toList))

@[simp] theorem block_nil : block [] = [] := rfl

theorem block_cons_of_some {line : List Char} {entry : List Char × List Char}
    (h : splitLine line = some entry) (rest : List (List Char)) :
    block (line :: rest) = entry :: block rest := by
  rw [block, h]

theorem block_cons_of_none {line : List Char} (h : splitLine line = none)
    (rest : List (List Char)) : block (line :: rest) = [] := by
  rw [block, h]

@[simp] theorem ofBlock_nil (line : Nat) : ofBlock line [] = .ok [] := rfl

end Directive

end Conformance
