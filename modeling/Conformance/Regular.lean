/-!
# Regular expressions over an alphabet

Regular expressions whose symbols are classes of letters and whose anchors look at the letters on
either side of a position. A text of length `n` has `n + 1` positions; an expression is read as a
map from sets of positions to sets of positions, so a search costs one pass per part of the
expression, however its alternatives and repetitions are nested.

## Main definitions

* `Regular α`: the expressions
* `Regular.reach`: the positions where a match may end, from the positions where it may begin
* `Regular.foundIn`: some part of the text matches
* `Regular.matchesWhole`: the whole text matches
-/

namespace Conformance

/-- Regular expressions over the alphabet `α`. -/
inductive Regular (α : Type) where
  /-- The empty word. -/
  | empty
  /-- One letter of a class. -/
  | one (p : α → Bool)
  /-- No letter, at a position whose neighbours satisfy a test. -/
  | border (p : Option α → Option α → Bool)
  /-- One expression, then another. -/
  | seq (r s : Regular α)
  /-- Either of two expressions. -/
  | alt (r s : Regular α)
  /-- An expression at least `least` times and, if there is a bound, at most `most` times. -/
  | times (r : Regular α) (least : Nat) (most : Option Nat)

namespace Regular

variable {α : Type}

/-- A set of positions of a text, one truth value per position. -/
abbrev Marks := List Bool

/-- The union of two sets of positions. -/
def Marks.union (m m' : Marks) : Marks :=
  List.zipWith (· || ·) m m'

/-- The neighbours of every position: the letter before it and the letter after it. -/
def borders (text : List α) : List (Option α × Option α) :=
  List.zip (none :: text.map some) (text.map some ++ [none])

/-- Apply `f` exactly `n` times, stopping early once nothing changes. -/
def exactly (f : Marks → Marks) : Nat → Marks → Marks
  | 0, m => m
  | n + 1, m => if f m == m then m else exactly f n (f m)

/-- The union of at most `n` applications of `f`, stopping early once nothing is added. -/
def upTo (f : Marks → Marks) : Nat → Marks → Marks
  | 0, m => m
  | n + 1, m => if m.union (f m) == m then m else upTo f n (m.union (f m))

/-- The positions where a match of the expression may end when it begins at a marked position. -/
def reach (text : List α) : Regular α → Marks → Marks
  | empty, m => m
  | one p, m => false :: List.zipWith (fun b a => b && p a) m text
  | border p, m => List.zipWith (fun b e => b && p e.1 e.2) m (borders text)
  | seq r s, m => reach text s (reach text r m)
  | alt r s, m => (reach text r m).union (reach text s m)
  | times r least none, m => upTo (reach text r) m.length (exactly (reach text r) least m)
  | times r least (some most), m =>
    upTo (reach text r) (most - least) (exactly (reach text r) least m)

/-- Some part of the text matches. -/
def foundIn (r : Regular α) (text : List α) : Bool :=
  (reach text r (true :: text.map fun _ => true)).any id

/-- The whole text matches. -/
def matchesWhole (r : Regular α) (text : List α) : Bool :=
  (reach text r (true :: text.map fun _ => false)).getLast? == some true

/-- Zero or more times. -/
def star (r : Regular α) : Regular α :=
  times r 0 none

/-- One expression after another. -/
def ofSeq : List (Regular α) → Regular α
  | [] => empty
  | [r] => r
  | r :: rs => seq r (ofSeq rs)

/-- Any one of some expressions; the empty word if there is none. -/
def ofAlt : List (Regular α) → Regular α
  | [] => empty
  | [r] => r
  | r :: rs => alt r (ofAlt rs)

/-- The given letters, in this order. -/
def word [BEq α] (letters : List α) : Regular α :=
  ofSeq (letters.map fun a => one (· == a))

end Regular

end Conformance
