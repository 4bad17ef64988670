import Conformance.Pattern.Escape

/-!
# Classes in brackets

A class in brackets is read by a machine with a stack of open brackets, which consumes at least one
character per step. What is wrong with the meaning of an item does not stop it: the first such
complaint is carried along.

## Main definitions

* `Nesting`: where a part of a pattern nests too deeply
* `Bracket`: a class under construction
* `readClass`: a class in brackets
-/

namespace Conformance.Pattern

open Text

/-! ## Nesting -/

/-- The deepest nesting a pattern may have. -/
def nestLimit : Nat := 250

/-- Where a part of a pattern nests too deeply, by the number of the levels around it. -/
abbrev Nesting := Nat → Option Stretch

/-- No level of nesting. -/
def Nesting.flat : Nesting := fun _ => none

/-- One level around others. -/
def Nesting.around (stretch : Stretch) (inner : List Nesting) : Nesting := fun depth =>
  if nestLimit ≤ depth then some stretch else inner.findSome? fun nesting => nesting (depth + 1)

/-! ## Operators -/

/-- The operators between the parts of a class. -/
inductive SetOp where
  | inter
  | diff
  | symmDiff

/-- The class that an operator makes of two. -/
def SetOp.apply : SetOp → Charset → Charset → Charset
  | inter => Charset.inter
  | diff => Charset.diff
  | symmDiff => Charset.symmDiff

/-- A part of a class: its characters, where it is written and how it nests. -/
structure Operand where
  set : Charset
  stretch : Stretch
  nesting : Nesting := .flat

/-- Items of a class that follow each other, latest first. Without an item their part of the text is
the place where the first one would begin. -/
structure Items where
  operands : List Operand := []
  place : List Char

/-- Add an item. -/
def Items.add (items : Items) (operand : Operand) : Items :=
  { items with operands := operand :: items.operands }

/-- The items as one part of the class. -/
def Items.operand (items : Items) : Operand :=
  match items.operands.reverse with
  | [] => { set := .none, stretch := ⟨items.place, items.place⟩ }
  | [operand] => operand
  | first :: others =>
    let stretch := ⟨first.stretch.start, (others.getLastD first).stretch.stop⟩
    { set := others.foldl (fun s operand => s.union operand.set) first.set
      stretch
      nesting := .around stretch ((first :: others).map Operand.nesting) }

/-- A bracket under construction: where it was opened, the left operand of a pending operator, and
the items since. -/
structure Bracket where
  opening : Stretch
  negated : Bool
  left : Option (SetOp × Operand) := none
  items : Items

/-- Add an item. -/
def Bracket.add (b : Bracket) (operand : Operand) : Bracket :=
  { b with items := b.items.add operand }

/-- The operand complete so far: the pending operator applied to the items. -/
def Bracket.operand (mode : Mode) (b : Bracket) : Operand :=
  let right := b.items.operand
  match b.left with
  | none => right
  | some (op, left) =>
    let stretch := ⟨left.stretch.start, right.stretch.stop⟩
    { set := op.apply (mode.fold left.set) (mode.fold right.set)
      stretch
      nesting := .around stretch [left.nesting, right.nesting] }

/-- Meet an operator, behind which `rest` is left. -/
def Bracket.meet (mode : Mode) (b : Bracket) (op : SetOp) (rest : List Char) : Bracket :=
  { b with left := some (op, b.operand mode), items := { place := rest } }

/-- The class of a finished bracket, behind which `rest` is left. -/
def Bracket.close (mode : Mode) (b : Bracket) (rest : List Char) : Operand :=
  let operand := b.operand mode
  let stretch := ⟨b.opening.start, rest⟩
  { set := mode.setOf operand.set b.negated
    stretch
    nesting := .around stretch [operand.nesting] }

/-- Outside Unicode mode a class holds ASCII characters only: with others it would match parts of
characters. -/
def Mode.excess? (mode : Mode) (operand : Operand) : Option Complaint :=
  if mode.unicode || !operand.set.contains '\x80' then none
  else some { problem := .partOfCharacter, stretch := operand.stretch }

/-! ## Items -/

/-- Hyphens that stand at the start of a bracket. -/
def leadingHyphens (mode : Mode) : (fuel : Nat) → Items → List Char → Items × List Char
  | 0, items, cs => (items, cs)
  | fuel + 1, items, cs =>
    match cs with
    | '-' :: rest =>
      leadingHyphens mode fuel
        (items.add { set := .single '-', stretch := ⟨cs, rest⟩ }) (mode.skip rest)
    | _ => (items, cs)

/-- The start of a bracket: a negation, hyphens, and a closing bracket that is the first item. The
text is `start` at the opening bracket and `cs` behind it. -/
def openBracket (mode : Mode) (start cs : List Char) : Reading Bracket :=
  let (negated, cs) := match mode.skip cs with
    | '^' :: rest => (true, mode.skip rest)
    | cs => (false, cs)
  let (items, rest) := leadingHyphens mode (cs.length + 1) { place := cs } cs
  match rest with
  | [] => complain .classUnclosed start (if items.operands.isEmpty then [] else start)
  | ']' :: tail =>
    if items.operands.isEmpty then
      let items := items.add { set := .single ']', stretch := ⟨rest, tail⟩ }
      match mode.skip tail with
      | [] => complain .classUnclosed start []
      | behind => .ok ({ opening := ⟨start, behind⟩, negated, items }, behind)
    else .ok ({ opening := ⟨start, rest⟩, negated, items }, rest)
  | _ => .ok ({ opening := ⟨start, rest⟩, negated, items }, rest)

/-- An ASCII class such as `[:alpha:]`: the text is `start` at its first bracket and `cs` behind
it. -/
def asciiClass? (mode : Mode) (start cs : List Char) : Option (Operand × List Char) :=
  match cs with
  | ':' :: rest =>
    let (negated, rest) := match rest with
      | '^' :: rest => (true, rest)
      | rest => (false, rest)
    let name := rest.takeWhile (· != ':')
    match rest.drop name.length with
    | ':' :: ']' :: behind =>
      (Charset.ascii? (String.ofList name)).map fun s =>
        ({ set := mode.setOf s negated, stretch := ⟨start, behind⟩ }, behind)
    | _ => none
  | _ => none

/-- One item of a class: an escape or a character. -/
def classItem (mode : Mode) : List Char → Reading Atom
  | [] => complain .classUnclosed [] []
  | '\\' :: rest => escape mode rest
  | c :: rest => .ok (.char c false, rest)

/-- What is wrong with a character in a class. -/
def Mode.charProblem? (mode : Mode) (c : Char) (byte : Bool) : Option Problem :=
  if mode.unicode || Charset.isAscii c then none
  else some (if byte then .partOfCharacter else .unicodeForbidden)

/-- The class of a single item, and what is wrong with its meaning. -/
def Mode.itemOperand (mode : Mode) (atom : Atom) (stretch : Stretch) :
    Except Complaint (Operand × Option Complaint) :=
  match atom with
  | .char c byte =>
    .ok ({ set := .single c, stretch },
      (mode.charProblem? c byte).map fun problem => { problem, stretch })
  | .set (.ok s) negated => .ok ({ set := mode.setOf s negated, stretch }, none)
  | .set (.error problem) _ => .ok ({ set := .none, stretch }, some { problem, stretch })
  | .anchor _ => .error { problem := .classEscape, stretch }

/-- A character at an end of a range, and what is wrong with its meaning. -/
def Mode.rangeEnd (mode : Mode) (atom : Atom) (stretch : Stretch) :
    Except Complaint (Char × Option Complaint) :=
  match atom with
  | .char c byte => .ok (c, (mode.charProblem? c byte).map fun problem => { problem, stretch })
  | _ => .error { problem := .rangeBound, stretch }

/-- The character that tells what a hyphen means, from those behind the hyphen: the first that is
neither a blank nor the beginning of a comment, be it in a comment or not; the very next one if
there is no such character. -/
def Mode.peek (mode : Mode) (cs : List Char) : Option Char :=
  if mode.verbose then
    let rest := match cs.dropWhile isBlank with
      | '#' :: rest => rest.dropWhile isBlank
      | rest => rest
    rest.head?.or cs.head?
  else cs.head?

/-- An item or a range of a class, and what is wrong with its meaning. A hyphen in front of a closing
bracket or of another hyphen makes no range. -/
def classRange (mode : Mode) (opening : Stretch) (cs : List Char) :
    Except Complaint ((Operand × Option Complaint) × List Char) := do
  let (first, stop) ← classItem mode cs
  let unclosed := complain .classUnclosed opening.start opening.stop
  match mode.skip stop with
  | [] => unclosed
  | '-' :: tail =>
    if [some ']', some '-'].contains (mode.peek tail) then
      return (← mode.itemOperand first ⟨cs, stop⟩, '-' :: tail)
    else
      match mode.skip tail with
      | [] => unclosed
      | next => do
        let (last, rest) ← classItem mode next
        let (a, wrong) ← mode.rangeEnd first ⟨cs, stop⟩
        let (b, wrong') ← mode.rangeEnd last ⟨next, rest⟩
        if a ≤ b then return (({ set := .range a b, stretch := ⟨cs, rest⟩ }, wrong.or wrong'), rest)
        else complain .rangeReversed cs rest
  | rest => return (← mode.itemOperand first ⟨cs, stop⟩, rest)

/-! ## The machine -/

/-- The machine that reads a class: `outer` holds the brackets around the current one, and `wrong`
the first complaint about a meaning. -/
def readBrackets (mode : Mode) : (fuel : Nat) → (wrong : Option Complaint) →
    (outer : List Bracket) → Bracket → List Char →
    Except Complaint ((Operand × Option Complaint) × List Char)
  | 0, _, _, b, _ => complain .classUnclosed b.opening.start b.opening.stop
  | fuel + 1, wrong, outer, b, cs =>
    match mode.skip cs with
    | [] => complain .classUnclosed b.opening.start b.opening.stop
    | '[' :: rest =>
      match asciiClass? mode ('[' :: rest) rest with
      | some (operand, rest) =>
        readBrackets mode fuel (wrong.or (mode.excess? operand)) outer (b.add operand) rest
      | none => do
        let (inner, rest) ← openBracket mode ('[' :: rest) rest
        readBrackets mode fuel wrong (b :: outer) inner rest
    | ']' :: rest =>
      let operand := b.close mode rest
      let wrong := wrong.or (mode.excess? operand)
      match outer with
      | [] => .ok ((operand, wrong), rest)
      | o :: outer => readBrackets mode fuel wrong outer (o.add operand) rest
    | '&' :: '&' :: rest => readBrackets mode fuel wrong outer (b.meet mode .inter rest) rest
    | '-' :: '-' :: rest => readBrackets mode fuel wrong outer (b.meet mode .diff rest) rest
    | '~' :: '~' :: rest => readBrackets mode fuel wrong outer (b.meet mode .symmDiff rest) rest
    | cs => do
      let ((operand, wrong'), rest) ← classRange mode b.opening cs
      readBrackets mode fuel (wrong.or wrong') outer (b.add operand) rest

/-- A class in brackets, and what is wrong with its meaning. The text is `start` at the first bracket
and `cs` behind it. -/
def readClass (mode : Mode) (start cs : List Char) :
    Except Complaint ((Operand × Option Complaint) × List Char) := do
  let (b, rest) ← openBracket mode start cs
  readBrackets mode (rest.length + 1) none [] b rest

end Conformance.Pattern
