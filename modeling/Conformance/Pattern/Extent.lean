import Conformance.Pattern.Tree
import Conformance.Pattern.ByteWord
import Conformance.Text.Utf8

/-!
# The extent of patterns

A pattern is admitted only if the automata that search for it are small enough: one reads the bytes
of a text forward to find where a match ends, the other backward to find where it begins. A
repetition is written out in an automaton, so a short pattern may have a large extent. This module
computes the extent without the automata.

An automaton has states of a fixed number of bytes, and transitions. A state with several transitions
by ranges of bytes stores each of them, and so does a branching state with its transitions by
nothing; a single transition costs nothing beyond its state. A part of a pattern becomes states with
one beginning and one end; the transition out of its end costs something only if its end is a
branching state.

## Main definitions

* `Direction`: the two ways of reading
* `Part`: what a part of a pattern adds to an automaton
* `Tree.part`: the part of a tree
* `Tree.fits`: both automata of a tree are small enough
-/

namespace Conformance.Pattern

/-- The sum of the numbers that elements count for. -/
def sumOver {α : Type} (as : List α) (number : α → Nat) : Nat :=
  as.foldr (fun a n => number a + n) 0

/-- The way in which an automaton reads a text. -/
inductive Direction where
  | forward
  | backward
deriving DecidableEq

/-- The bytes of a state. -/
def stateBytes : Nat := 32

/-- The bytes of one of several transitions by ranges of bytes. -/
def rangeBytes : Nat := 8

/-- The bytes of a transition out of a branching state. -/
def jumpBytes : Nat := 4

/-- The states of a part of an automaton with their transitions, and the transition out of its
end, in bytes. -/
structure Part where
  bytes : Nat
  exit : Nat
deriving DecidableEq

namespace Part

/-- A part that does not end in a branching state. -/
def closed (bytes : Nat) : Part := ⟨bytes, 0⟩

/-- The part together with the transition out of its end. -/
def total (p : Part) : Nat := p.bytes + p.exit

/-- One part, then another. -/
def append (p q : Part) : Part := ⟨p.total + q.bytes, q.exit⟩

/-- Parts in order; a single state if there is none. -/
def concat : List Part → Part
  | [] => closed stateBytes
  | [p] => p
  | p :: ps => p.append (concat ps)

/-- A part a fixed number of times. -/
def copies (p : Part) : Nat → Part
  | 0 => closed stateBytes
  | n + 1 => ⟨n * p.total + p.bytes, p.exit⟩

/-- A part or nothing. -/
def orNothing (p : Part) : Part :=
  closed (2 * stateBytes + p.total + 2 * jumpBytes)

/-- A part a number of times, the last of them any number of times: it ends in a branching state
that leads back. -/
def looping (p : Part) (least : Nat) : Part :=
  ⟨least * p.total + stateBytes + jumpBytes, jumpBytes⟩

/-- A part any number of times. Only if the part always consumes something can the branching state
in front of it be the one that leads back. -/
def anyNumber (p : Part) (consumes : Bool) : Part :=
  if consumes then p.looping 1
  else closed ((p.looping 1).total + 2 * stateBytes + 2 * jumpBytes)

/-- A part a number of times, and then up to `more` further times. -/
def upTo (p : Part) (least more : Nat) : Part :=
  closed ((p.copies least).total + stateBytes + more * (stateBytes + p.total + 2 * jumpBytes))

/-- A part repeated. -/
def times (p : Part) (consumes : Bool) : (least : Nat) → (most : Option Nat) → Part
  | 0, some 1 => p.orNothing
  | 0, none => p.anyNumber consumes
  | least, none => p.looping least
  | least, some most => if most ≤ least then p.copies least else p.upTo least (most - least)

/-- Any one of several parts. -/
def choice (ps : List Part) : Part :=
  closed (2 * stateBytes + sumOver ps fun p => p.total + jumpBytes)

end Part

/-! ## Classes -/

/-- The greatest number of bytes of a character. -/
def longestWidth : Nat := 4

/-- The states that read the given words of byte ranges to their ends, each with its transitions:
a state is determined by the words that it still has to read. -/
def wordStates : (depth : Nat) → List (List ByteRange) → List (List (List ByteRange))
  | 0, _ => []
  | depth + 1, words =>
    let groups := Group.collect words
    if groups.isEmpty then [] else words :: groups.flatMap fun g => wordStates depth g.tails

/-- The bytes of a state that reads the given words. -/
def wordStateBytes (words : List (List ByteRange)) : Nat :=
  stateBytes + rangeBytes * (Group.collect words).length

/-- The number of the beginnings of words, other than the empty one. -/
def beginningCount {α : Type} [BEq α] : (depth : Nat) → List (List α) → Nat
  | 0, _ => 0
  | depth + 1, words =>
    sumOver (Group.collect words) fun g => 1 + beginningCount depth g.tails

/-- The class holds only ASCII characters. -/
def isAsciiOnly (s : Charset) : Bool :=
  s.ranges.all fun r => r.2 < 128

/-- The part of a class. Read forward, states with the same words ahead are one; read backward,
words share the states of their common beginnings. -/
def classPart (d : Direction) (s : Charset) : Part :=
  if isAsciiOnly s then .closed (2 * stateBytes + rangeBytes * s.ranges.length)
  else
    let words := byteWords s
    match d with
    | .forward =>
      .closed (stateBytes + sumOver (wordStates longestWidth words).eraseDups wordStateBytes)
    | .backward =>
      .closed (2 * stateBytes + stateBytes * beginningCount longestWidth words +
        jumpBytes * words.length)

/-! ## Choices of words -/

/-- The runs of words between empty words: one more than there are empty words. -/
def splitAtEmpty {α : Type} : List (List α) → List (List (List α))
  | [] => [[]]
  | [] :: words => [] :: splitAtEmpty words
  | w :: words =>
    match splitAtEmpty words with
    | [] => [[w]]
    | run :: runs => (w :: run) :: runs

/-- The runs of words between empty words, where all empty words at the start count as one. -/
def runs {α : Type} (words : List (List α)) : List (List (List α)) :=
  if words.head?.any List.isEmpty then [] :: splitAtEmpty (words.dropWhile List.isEmpty)
  else splitAtEmpty words

/-- The state that reads the first letters of a run of words. -/
def runBytes {α : Type} (groups : List (Group α)) : Nat :=
  if groups.length ≤ 1 then stateBytes else stateBytes + rangeBytes * groups.length

/-- The states that read any one of the words. Words share the states of their common beginnings
as long as no empty word stands between them: what is listed first is preferred. -/
def trieBytes {α : Type} [BEq α] : (depth : Nat) → List (List α) → Nat
  | 0, _ => 0
  | depth + 1, words =>
    if words.all List.isEmpty then 0
    else
      let runs := runs words
      let groups := (runs.filter (!·.isEmpty)).map Group.collect
      stateBytes + jumpBytes * (groups.length + (runs.length - 1)) +
        sumOver groups fun gs => runBytes gs + sumOver gs fun g => trieBytes depth g.tails

/-- The bytes of a word, in the order in which they are read. -/
def Direction.bytes (d : Direction) (letters : List Char) : Bytes :=
  let bytes := letters.flatMap fun c => Text.encode (String.ofList [c])
  match d with
  | forward => bytes
  | backward => bytes.reverse

/-- The part of a choice of words. -/
def wordChoice (d : Direction) (words : List (List Char)) : Part :=
  let words := words.map d.bytes
  let longest := (words.map List.length).foldl max 0
  .closed (stateBytes + trieBytes longest words)

/-! ## Trees -/

/-- The letters of a tree that is a word. -/
def Tree.letters? : Tree → Option (List Char)
  | word letters => some letters
  | _ => none

mutual

/-- What a tree adds to the automaton of a direction. Only the forward automaton remembers
groups. -/
def Tree.part (d : Direction) : Tree → Part
  | .empty | .anchor _ => .closed stateBytes
  | .word letters => .closed (stateBytes * (d.bytes letters).length)
  | .set s => classPart d s
  | .times t least most _ => (part d t).times t.consumes least most
  | .group t =>
    match d with
    | .forward => .closed (2 * stateBytes + (part d t).total)
    | .backward => part d t
  | .seq ts =>
    match d with
    | .forward => .concat (parts d ts)
    | .backward => .concat (parts d ts).reverse
  | .alt ts =>
    match ts.mapM Tree.letters? with
    | some words => wordChoice d words
    | none => .choice (parts d ts)

/-- What several trees add, one by one. -/
def Tree.parts (d : Direction) : List Tree → List Part
  | [] => []
  | t :: ts => part d t :: parts d ts

end

mutual

/-- A match of the tree, read in a direction, begins at a position of the kind. -/
def Tree.isAnchored (d : Direction) (a : Anchor) : Tree → Bool
  | .anchor b => a == b
  | .times t least _ _ => 0 < least && isAnchored d a t
  | .group t => isAnchored d a t
  | .seq ts => someAnchored d a ts
  | .alt ts => allAnchored d a ts
  | _ => false

/-- A match of the trees in order, read in a direction, begins at a position of the kind. -/
def Tree.someAnchored (d : Direction) (a : Anchor) : List Tree → Bool
  | [] => false
  | t :: ts =>
    match d with
    | .forward => isAnchored d a t || (t.isWeightless && someAnchored d a ts)
    | .backward => (isAnchored d a t && areWeightless ts) || someAnchored d a ts

/-- A match of any of the trees, read in a direction, begins at a position of the kind. -/
def Tree.allAnchored (d : Direction) (a : Anchor) : List Tree → Bool
  | [] => true
  | t :: ts => isAnchored d a t && allAnchored d a ts

end

/-- The end of the text at which reading in a direction begins. -/
def Direction.origin : Direction → Anchor
  | forward => .textStart
  | backward => .textEnd

/-- What stands in front of the automaton: a loop over all bytes, unless every match begins where
the reading begins. -/
def Direction.lead (d : Direction) (t : Tree) : Part :=
  if t.isAnchored d d.origin then .closed stateBytes
  else (Part.closed (2 * stateBytes + rangeBytes)).looping 1

/-- The bytes of the automaton that searches for a tree in a direction. The match as a whole is
remembered like a group. -/
def Tree.extent (d : Direction) (t : Tree) : Nat :=
  (d.lead t).total + (Tree.part d (.group t)).total + stateBytes

/-- The greatest extent of a pattern. -/
def extentLimit : Nat := 10 * 1024 * 1024

/-- Both automata of the tree are small enough. -/
def Tree.fits (t : Tree) : Bool :=
  t.extent .forward ≤ extentLimit && t.extent .backward ≤ extentLimit

end Conformance.Pattern
