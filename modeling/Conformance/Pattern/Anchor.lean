import Conformance.Pattern.Property

/-!
# Positions in patterns

The parts of a pattern that match no character but a position: the ends of the text and of lines,
and the edges of words.

## Main definitions

* `Anchor`: the kinds of positions
* `Anchor.holds`: a position is of the kind, judged by its neighbours
-/

namespace Conformance.Pattern

/-- How a position lies to the words around it. -/
inductive WordEdge where
  /-- A word begins or ends here. -/
  | border
  /-- No word begins or ends here. -/
  | inside
  /-- A word begins here. -/
  | start
  /-- A word ends here. -/
  | stop
  /-- No word stands before. -/
  | startHalf
  /-- No word stands behind. -/
  | stopHalf
deriving DecidableEq

/-- A kind of position. A carriage return ends a line if `crlf` holds; words are made of ASCII
characters unless `unicode` holds. -/
inductive Anchor where
  | textStart
  | textEnd
  | lineStart (crlf : Bool)
  | lineEnd (crlf : Bool)
  | word (edge : WordEdge) (unicode : Bool)
deriving DecidableEq

/-- The word characters. -/
def wordSet (unicode : Bool) : Charset :=
  if unicode then Charset.word else Charset.asciiWord

/-- The position between a word character or its absence and another. -/
def WordEdge.holds (before after : Bool) : WordEdge → Bool
  | border => before != after
  | inside => before == after
  | start => !before && after
  | stop => before && !after
  | startHalf => !before
  | stopHalf => !after

/-- The position between two neighbours is of the kind. -/
def Anchor.holds (a : Anchor) (before after : Option Char) : Bool :=
  match a with
  | textStart => before.isNone
  | textEnd => after.isNone
  | lineStart crlf =>
    before.all fun b => b == '\n' || (crlf && b == '\r' && after != some '\n')
  | lineEnd crlf =>
    after.all fun a => if crlf then a == '\r' || (a == '\n' && before != some '\r') else a == '\n'
  | word edge unicode =>
    edge.holds (before.any (wordSet unicode).contains) (after.any (wordSet unicode).contains)

end Conformance.Pattern
