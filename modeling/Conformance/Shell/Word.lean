import Conformance.Shell.State
import Conformance.Shell.Pathname

/-!
# Expanded words

What the pieces of a word come to, and how the fields of a command are made from it.

## Main definitions

* `Shell.Segment`: a part of an expanded word
* `Shell.joined`: the segments as one text
* `Shell.fieldsOf`: the segments as fields
* `Shell.parameterSegments`: the segments of a parameter
-/

namespace Conformance.Shell

/-- A part of an expanded word. -/
inductive Segment where
  /-- Text that stays in one field. -/
  | kept (text : Octets) (quoted : Bool)
  /-- Text that is split at separators. -/
  | split (text : Octets)
  /-- The boundary between two arguments. -/
  | gap
deriving DecidableEq, Repr

/-- The segment of a value. -/
def Segment.ofValue (quoted : Bool) (text : Octets) : Segment :=
  if quoted then .kept text true else .split text

/-- A segment inside an unquoted substitution, where only quoted text stays in one field. -/
def Segment.loosen : Segment → Segment
  | kept text false => split text
  | s => s

/-- The segments as one text. -/
def joined (segments : List Segment) : Octets :=
  segments.flatMap fun
    | .kept text _ => text
    | .split text => text
    | .gap => [' ']

/-- A text as a pattern that matches only the text. -/
def literally (text : Octets) : Octets :=
  text.flatMap fun c => ['\\', c]

/-- The segments as a pattern, in which quoted text is literal. -/
def joinedPattern (segments : List Segment) : Octets :=
  segments.flatMap fun
    | .kept text true => literally text
    | .kept text false => text
    | .split text => text
    | .gap => [' ']

/-- A field, and what it is as a pattern. -/
structure Field where
  text : Octets := []
  pattern : Octets := []

/-- The fields so far, the newest first, and the one that is not ended. -/
structure Fields where
  done : List Field := []
  current : Option Field := none

namespace Fields

/-- Go on with the current field. -/
def extend (f : Fields) (text : Octets) (quoted : Bool) : Fields :=
  let field := f.current.getD {}
  let pattern := field.pattern ++ if quoted then literally text else text
  { f with current := some ⟨field.text ++ text, pattern⟩ }

/-- End the current field, if there is one. -/
def close (f : Fields) : Fields :=
  match f.current with
  | none => f
  | some field => ⟨field :: f.done, none⟩

/-- Split a text at separators. One that is no space ends a field even if that is empty. -/
def addSplit (separators : Octets) (f : Fields) : Octets → Fields
  | [] => f
  | c :: cs =>
    if separators.contains c then
      if c = ' ' ∨ c = '\t' ∨ c = '\n' then f.close.addSplit separators cs
      else (f.extend [] false).close.addSplit separators cs
    else
      let rest := cs.takeWhile fun c => !separators.contains c
      (f.extend (c :: rest) (c == '\\')).addSplit separators (cs.drop rest.length)
termination_by text => text.length

/-- Take a segment into account. -/
def add (separators : Octets) (f : Fields) : Segment → Fields
  | .kept text quoted => f.extend text quoted
  | .split text => f.addSplit separators text
  | .gap => f.close

end Fields

/-- The segments as fields. -/
def fieldsOf (separators : Octets) (segments : List Segment) : List Field :=
  (segments.foldl (Fields.add separators) {}).close.done.reverse

/-- The paths that a field matches, or its text if there are none. -/
def State.paths (s : State) (field : Field) : List Octets :=
  if s.own.options.literalPaths || !isPattern field.pattern then [field.text]
  else
    match matchingPaths s.machine s.own.directory field.pattern with
    | [] => [field.text]
    | paths => paths

/-- The bytes at which values are split. -/
def State.separators (s : State) : Octets :=
  (s.own.value? "IFS".toList).getD " \t\n".toList

/-- The value of a parameter. -/
def State.value? (s : State) (name : Octets) : Option Octets :=
  match name with
  | ['@'] => if s.own.args.isEmpty then none else some (List.intercalate [' '] s.own.args)
  | ['*'] => if s.own.args.isEmpty then none else some (List.intercalate [' '] s.own.args)
  | ['#'] => some (Octets.decimal s.own.args.length)
  | ['?'] => some (Octets.decimal s.own.status)
  | ['$'] => some (Octets.decimal s.own.id)
  | ['!'] => none
  | ['-'] => some s.own.options.letters
  | ['0'] => some s.own.name
  | name =>
    if name.all Char.isDigit then s.own.args[Octets.digitsValue 10 name - 1]?
    else s.own.value? name

/-- The segments of a parameter. The arguments stay apart behind `@`. -/
def parameterSegments (s : State) (name : Octets) (quoted : Bool) : List Segment :=
  if name = ['@'] ∨ (name = ['*'] ∧ !quoted) then
    (s.own.args.map (Segment.ofValue quoted)).intersperse .gap
  else [.ofValue quoted ((s.value? name).getD [])]

end Conformance.Shell
