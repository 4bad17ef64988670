import Conformance.Text.CodeRange

/-!
# Classes of characters

A class of characters as closed ranges of code points: in order, and with a character missing
between any two of them. A class has one such form, so two classes are equal when they have the same
members.

## Main definitions

* `Charset`: a class of characters
* `Charset.contains`: membership
* `Charset.union`, `Charset.inter`, `Charset.diff`, `Charset.symmDiff`, `Charset.compl`: the
  operations on classes
-/

namespace Conformance

/-- A class of characters, as the ranges of its code points. -/
structure Charset where
  ranges : Text.CodeRanges
deriving DecidableEq

namespace Charset

open Text

/-- The character is a member of the class. -/
def contains (s : Charset) (c : Char) : Bool :=
  s.ranges.contains c

/-- The greatest code point. -/
def lastCode : Nat := 0x10FFFF

/-- The code point of the next character: the surrogates are not characters. -/
def nextCode (n : Nat) : Nat :=
  if n == 0xD7FF then 0xE000 else n + 1

/-- The code point of the character before. -/
def previousCode (n : Nat) : Nat :=
  if n == 0xE000 then 0xD7FF else n - 1

/-- Join a range with those of the following ranges that overlap or touch it. -/
def joinFrom (first last : Nat) : CodeRanges → CodeRanges
  | [] => [(first, last)]
  | (a, b) :: rest =>
    if a ≤ nextCode last then joinFrom first (max last b) rest
    else (first, last) :: joinFrom a b rest

/-- The class of the characters in any of the ranges, which may come in any order. -/
def ofRanges (ranges : CodeRanges) : Charset :=
  match ranges.mergeSort fun r s => r.1 ≤ s.1 with
  | [] => ⟨[]⟩
  | (a, b) :: rest => ⟨joinFrom a b rest⟩

/-- The characters between a code point and the end that lie in none of the ranges. -/
def gapsFrom (first : Nat) : CodeRanges → CodeRanges
  | [] => if first ≤ lastCode then [(first, lastCode)] else []
  | (a, b) :: rest =>
    if first < a then (first, previousCode a) :: gapsFrom (nextCode b) rest
    else gapsFrom (nextCode b) rest

/-- The class without members. -/
def none : Charset := ⟨[]⟩

/-- The class of all characters. -/
def all : Charset := ⟨[(0, lastCode)]⟩

/-- The characters of a closed range. -/
def range (first last : Char) : Charset := ⟨[(first.toNat, last.toNat)]⟩

/-- The class of one character. -/
def single (c : Char) : Charset := range c c

/-- The class of the given characters. -/
def ofList (cs : List Char) : Charset :=
  ofRanges (cs.map fun c => (c.toNat, c.toNat))

/-- The characters not in the class. -/
def compl (s : Charset) : Charset := ⟨gapsFrom 0 s.ranges⟩

/-- The characters in either class. -/
def union (s t : Charset) : Charset := ofRanges (s.ranges ++ t.ranges)

/-- The characters in both classes. -/
def inter (s t : Charset) : Charset := (s.compl.union t.compl).compl

/-- The characters in the first class only. -/
def diff (s t : Charset) : Charset := s.inter t.compl

/-- The characters in exactly one of the classes. -/
def symmDiff (s t : Charset) : Charset := (s.union t).diff (s.inter t)

/-- No character is in the class. -/
def isNone (s : Charset) : Bool := s.ranges.isEmpty

/-- The only member of the class, if it has just one. -/
def only? (s : Charset) : Option Char :=
  match s.ranges with
  | [(a, b)] => if a == b then some (Char.ofNat a) else Option.none
  | _ => Option.none

end Charset

end Conformance
