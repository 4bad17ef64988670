import Conformance.Regular
import Conformance.Pattern.Anchor

/-!
# The structure of patterns

Patterns as trees in a simple form: letters that follow each other make one word, a class of one
character is a letter, nothing is repeated once, and alternatives that all begin alike are written
behind their common beginning. The simple form is what the size of a pattern is measured on; it
matches what the pattern as written does.

## Main definitions

* `Tree`: the trees
* `Tree.ofClass`, `Tree.repeated`, `Tree.inOrder`, `Tree.anyOf`: the simple form of a class, a
  repetition, a sequence and a choice
* `Tree.expr`: the regular expression of a tree
-/

namespace Conformance.Pattern

/-- A pattern as a tree. -/
inductive Tree where
  /-- The empty word. -/
  | empty
  /-- One or more letters in a row. -/
  | word (letters : List Char)
  /-- One character of a class. -/
  | set (s : Charset)
  /-- A position. -/
  | anchor (a : Anchor)
  /-- A repetition, which prefers to match much if it is greedy. -/
  | times (t : Tree) (least : Nat) (most : Option Nat) (greedy : Bool)
  /-- A group that remembers what it matched. -/
  | group (t : Tree)
  /-- One after another. -/
  | seq (ts : List Tree)
  /-- Any one of several. -/
  | alt (ts : List Tree)

namespace Tree

/-! ## Comparing trees -/

mutual

/-- The trees are equal and hold no group: two groups remember different parts. -/
def same : Tree → Tree → Bool
  | empty, empty => true
  | word v, word w => v == w
  | set s, set t => s == t
  | anchor a, anchor b => a == b
  | times t least most greedy, times u least' most' greedy' =>
    same t u && least == least' && most == most' && greedy == greedy'
  | seq ts, seq us => sameAll ts us
  | alt ts, alt us => sameAll ts us
  | _, _ => false

/-- The lists of trees are the same. -/
def sameAll : List Tree → List Tree → Bool
  | [], [] => true
  | t :: ts, u :: us => same t u && sameAll ts us
  | _, _ => false

end

/-! ## Lengths -/

mutual

/-- The tree matches the empty word and nothing else. -/
def isWeightless : Tree → Bool
  | empty | anchor _ => true
  | word _ | set _ => false
  | times t _ _ _ => isWeightless t
  | group t => isWeightless t
  | seq ts => areWeightless ts
  | alt ts => areWeightless ts

/-- All trees match the empty word and nothing else. -/
def areWeightless : List Tree → Bool
  | [] => true
  | t :: ts => isWeightless t && areWeightless ts

end

/-- The lesser of two lengths, if both exist. -/
def shorter (m n : Option Nat) : Option Nat :=
  m.bind fun m => n.map (min m)

mutual

/-- A lower bound of the lengths of matches; none if nothing matches. -/
def leastLength : Tree → Option Nat
  | empty | anchor _ => some 0
  | word letters => some letters.length
  | set s => if s.isNone then none else some 1
  | times t least _ _ => (leastLength t).map (· * least)
  | group t => leastLength t
  | seq ts => leastSum ts
  | alt ts => leastOf ts

/-- The sum of the lower bounds. -/
def leastSum : List Tree → Option Nat
  | [] => some 0
  | t :: ts => (leastLength t).bind fun m => (leastSum ts).map (m + ·)

/-- The least of the lower bounds. -/
def leastOf : List Tree → Option Nat
  | [] => none
  | [t] => leastLength t
  | t :: ts => shorter (leastLength t) (leastOf ts)

end

/-- Every match has a letter. -/
def consumes (t : Tree) : Bool :=
  t.leastLength.any (0 < ·)

/-! ## Simple form -/

/-- A class. -/
def ofClass (s : Charset) : Tree :=
  match s.only? with
  | some c => word [c]
  | none => set s

/-- A repetition. Repeating what has no length more than once adds nothing. -/
def repeated (t : Tree) (least : Nat) (most : Option Nat) (greedy : Bool) : Tree :=
  let least' := if t.isWeightless then min least 1 else least
  let most' := if t.isWeightless then some (min (most.getD 1) 1) else most
  if least' == 0 && most' == some 0 then empty
  else if least' == 1 && most' == some 1 then t
  else times t least' most' greedy

/-- The parts that follow each other in a tree. -/
def factors : Tree → List Tree
  | seq ts => ts
  | empty => []
  | t => [t]

/-- Put a part in front of others; two words make one. -/
def joinWords : Tree → List Tree → List Tree
  | word v, word w :: ts => word (v ++ w) :: ts
  | t, ts => t :: ts

/-- A sequence. -/
def inOrder (ts : List Tree) : Tree :=
  match (ts.flatMap factors).foldr joinWords [] with
  | [] => empty
  | [t] => t
  | ts => seq ts

/-- The alternatives of a tree. -/
def branches : Tree → List Tree
  | alt ts => ts
  | t => [t]

/-- The letter that is the whole of a tree. -/
def letter? : Tree → Option Char
  | word [c] => some c
  | _ => none

/-- The class that is the whole of a tree. -/
def class? : Tree → Option Charset
  | set s => some s
  | _ => none

/-- A choice of letters, or of classes, as one class. -/
def asClass? (ts : List Tree) : Option Charset :=
  match ts.mapM letter? with
  | some cs => some (.ofList cs)
  | none => (ts.mapM class?).map fun ss => ss.foldl Charset.union Charset.none

/-- A choice whose common beginning is not looked for. -/
def oneOf (ts : List Tree) : Tree :=
  match ts.flatMap branches with
  | [] => set .none
  | [t] => t
  | ts =>
    match asClass? ts with
    | some s => ofClass s
    | none => alt ts

/-- The length of the common beginning of two sequences. -/
def commonLength : List Tree → List Tree → Nat
  | t :: ts, u :: us => if same t u then commonLength ts us + 1 else 0
  | _, _ => 0

/-- What follows each other in a tree that is a sequence; nothing in any other. -/
def steps : Tree → List Tree
  | seq ts => ts
  | _ => []

/-- A choice. A beginning that all alternatives have in common is written once. -/
def anyOf (ts : List Tree) : Tree :=
  match oneOf ts with
  | alt (t :: ts) =>
    let n := (ts.map fun u => commonLength t.steps u.steps).foldl min t.steps.length
    if n == 0 then alt (t :: ts)
    else inOrder (t.steps.take n ++ [oneOf ((t :: ts).map fun u => inOrder (u.steps.drop n))])
  | t => t

/-! ## Meaning -/

mutual

/-- The regular expression of a tree. -/
def expr : Tree → Regular Char
  | empty => .empty
  | word letters => .word letters
  | set s => .one s.contains
  | anchor a => .border a.holds
  | times t least most _ => .times (expr t) least most
  | group t => expr t
  | seq ts => .ofSeq (exprs ts)
  | alt ts => .ofAlt (exprs ts)

/-- The regular expressions of several trees. -/
def exprs : List Tree → List (Regular Char)
  | [] => []
  | t :: ts => expr t :: exprs ts

end

end Tree

end Conformance.Pattern
