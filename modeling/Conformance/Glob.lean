import Conformance.Regular
import Conformance.Text.Utf8

/-!
# Globs

Wildcard patterns over whole texts: `?` for one byte, `*` for any bytes, classes in brackets,
alternatives in braces, and `**` between slashes for any number of directories. A text that leaves
a bracket or a brace open, closes a brace that is not open, or has a reversed range is no glob.

## Main definitions

* `Glob`: the parts of a wildcard pattern
* `Glob.read?`: the glob written as a text
* `Glob.matchesKey`: a whole text matches
-/

namespace Conformance

/-- A part of a wildcard pattern. -/
inductive GlobPart where
  /-- The character itself. -/
  | literal (c : Char)
  /-- One byte. -/
  | any
  /-- Any bytes. -/
  | star
  /-- One byte of some ranges, or one byte of none of them. -/
  | oneOf (negated : Bool) (ranges : List (Char × Char))
  /-- Any of some patterns. -/
  | alternatives (branches : List (List GlobPart))
  /-- Any directories before the rest. -/
  | leading
  /-- Anything below a directory. -/
  | trailing
  /-- Any directories between two slashes. -/
  | between

/-- A wildcard pattern: its parts in order. -/
abbrev Glob := List GlobPart

namespace Glob

/-! ## Reading -/

/-- A class behind its opening bracket and negation, up to its closing bracket. A closing bracket or
a hyphen is literal at the start, a hyphen also at the end. The ranges are listed latest first. -/
def readRanges (first inRange : Bool) (ranges : List (Char × Char)) :
    List Char → Option (List (Char × Char) × List Char)
  | [] => none
  | c :: cs =>
    if c = ']' ∧ !first then some (if inRange then ('-', '-') :: ranges else ranges, cs)
    else if c = '-' ∧ !first ∧ !inRange then readRanges false true ranges cs
    else match inRange, ranges with
      | true, (a, _) :: ranges =>
        if a ≤ c then readRanges false false ((a, c) :: ranges) cs else none
      | _, ranges => readRanges false inRange ((c, c) :: ranges) cs

/-- A class behind its opening bracket. -/
def readClass (cs : List Char) : Option (GlobPart × List Char) :=
  let (negated, cs) := match cs with
    | '!' :: rest => (true, rest)
    | '^' :: rest => (true, rest)
    | rest => (false, rest)
  (readRanges true false [] cs).map fun (ranges, rest) => (.oneOf negated ranges.reverse, rest)

/-- The branches of an open brace: the finished ones and the parts of the current one, latest
first. -/
structure Level where
  finished : List Glob := []
  parts : List GlobPart := []

/-- Add a part. -/
def Level.add (l : Level) (p : GlobPart) : Level :=
  { l with parts := p :: l.parts }

/-- Begin the next branch. -/
def Level.next (l : Level) : Level :=
  ⟨l.parts.reverse :: l.finished, []⟩

/-- All branches. -/
def Level.close (l : Level) : List Glob :=
  l.next.finished.reverse

/-- Two stars: directories if they stand between slashes or at an end, two stars otherwise. `before`
is the character before them, `nested` says whether a brace is open. Returns the text behind. -/
def readDoubleStar (nested : Bool) (before : Option Char) (l : Level) (cs : List Char) :
    Level × Option Char × List Char :=
  let stars := ((l.add .star).add .star, some '*', cs)
  match l.parts with
  | [] =>
    match cs with
    | [] => (l.add .leading, some '*', [])
    | '/' :: rest => (l.add .leading, some '/', rest)
    | _ => stars
  | last :: parts =>
    if before ≠ some '/' then stars
    else
      let replaced (p : GlobPart) : Level :=
        { l with parts := (match last with
          | .leading => .leading
          | .trailing => .trailing
          | _ => p) :: parts }
      match cs with
      | [] => (replaced .trailing, some '*', [])
      | '/' :: rest => (replaced .between, some '/', rest)
      | c :: _ =>
        if nested ∧ (c = ',' ∨ c = '}') then (replaced .trailing, some '*', cs) else stars

/-- The machine that reads a glob: `outer` holds the braces around the current one, `before` the
character read last. -/
def readParts : (fuel : Nat) → (outer : List Level) → (before : Option Char) → Level →
    List Char → Option Glob
  | 0, _, _, _, _ => none
  | fuel + 1, outer, before, l, cs =>
    match cs with
    | [] => if outer.isEmpty then some l.parts.reverse else none
    | '?' :: rest => readParts fuel outer (some '?') (l.add .any) rest
    | '*' :: '*' :: rest =>
      let (l, before, rest) := readDoubleStar (!outer.isEmpty) before l rest
      readParts fuel outer before l rest
    | '*' :: rest => readParts fuel outer (some '*') (l.add .star) rest
    | '[' :: rest =>
      (readClass rest).bind fun (p, rest) => readParts fuel outer (some ']') (l.add p) rest
    | '{' :: rest => readParts fuel (l :: outer) (some '{') {} rest
    | '}' :: rest =>
      match outer with
      | [] => none
      | o :: outer => readParts fuel outer (some '}') (o.add (.alternatives l.close)) rest
    | ',' :: rest =>
      if outer.isEmpty then readParts fuel outer (some ',') (l.add (.literal ',')) rest
      else readParts fuel outer (some ',') l.next rest
    | c :: rest => readParts fuel outer (some c) (l.add (.literal c)) rest

/-- The glob written as a text, if it is one. -/
def read? (source : List Char) : Option Glob :=
  readParts (source.length + 1) [] none {} source

/-! ## Matching -/

/-- Any one byte. -/
def anyByte : Regular UInt8 :=
  .one fun _ => true

/-- Any bytes. -/
def anyBytes : Regular UInt8 :=
  .star anyByte

/-- A slash. -/
def slash : Regular UInt8 :=
  .one (· == 0x2F)

/-- A byte of a range of characters: the range is between the last byte of the one and the first
byte of the other, their further bytes count singly. -/
def inRange (range : Char × Char) (b : UInt8) : Bool :=
  let first := Text.encode (String.singleton range.1)
  let last := Text.encode (String.singleton range.2)
  if range.1 = range.2 then first.contains b
  else first.dropLast.contains b || last.tail.contains b ||
    (first.getLast?.any (· ≤ b) && last.head?.any (b ≤ ·))

mutual

/-- The part matches nothing but the empty text, because it has no branch that could match more. -/
def isVoidPart : GlobPart → Bool
  | .alternatives branches => areVoid branches
  | _ => false

/-- All parts are void. -/
def isVoid : List GlobPart → Bool
  | [] => true
  | p :: ps => isVoidPart p && isVoid ps

/-- All branches are void. -/
def areVoid : List (List GlobPart) → Bool
  | [] => true
  | g :: gs => isVoid g && areVoid gs

end

mutual

/-- The expression of a part. -/
def partExpr : GlobPart → Regular UInt8
  | .literal c => .word (Text.encode (String.singleton c))
  | .any => anyByte
  | .star => anyBytes
  | .oneOf negated ranges => .one fun b => negated != ranges.any fun r => inRange r b
  | .alternatives branches => .ofAlt (branchExprs branches)
  | .leading => .alt (.times slash 0 (some 1)) (.seq anyBytes slash)
  | .trailing => .seq slash anyBytes
  | .between => .alt slash (.seq slash (.seq anyBytes slash))

/-- The expression of parts in order. -/
def partsExpr : List GlobPart → Regular UInt8
  | [] => .empty
  | p :: ps => .seq (partExpr p) (partsExpr ps)

/-- The expressions of branches. A void branch does not count as one. -/
def branchExprs : List (List GlobPart) → List (Regular UInt8)
  | [] => []
  | g :: gs => if isVoid g then branchExprs gs else partsExpr g :: branchExprs gs

end

/-- The expression of a glob. Two stars alone match everything. -/
def expr (g : Glob) : Regular UInt8 :=
  match g with
  | [.leading] => anyBytes
  | g => partsExpr g

/-- The whole text matches the glob. -/
def matchesKey (g : Glob) (key : String) : Bool :=
  g.expr.matchesWhole (Text.encode key)

end Glob

end Conformance
