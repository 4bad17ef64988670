import Conformance.Pattern.Charset

/-!
# Characters as words of bytes

A character is written in UTF-8 as one to four bytes. The characters of a class are written as words
of byte ranges: a word stands for the characters whose bytes lie in its ranges, place by place. The
words of a class are in order, have no character in common, and are as few as can be.

## Main definitions

* `ByteRange`: a closed range of bytes
* `byteWords`: the words of a class
* `Group.collect`: words grouped by what they begin with
-/

namespace Conformance.Pattern

/-- A closed range of bytes. -/
structure ByteRange where
  first : Nat
  last : Nat
deriving DecidableEq

/-- A written form of characters: the first byte of the characters of each length is that of the
mark, with the leading bits of the code point added. -/
structure Width where
  /-- The bytes behind the first. -/
  following : Nat
  /-- The mark in the first byte. -/
  mark : Nat
  /-- The least and the greatest code point written so. -/
  least : Nat
  greatest : Nat

/-- The written forms by length; those of three bytes are divided by the surrogates. -/
def widths : List Width :=
  [⟨0, 0, 0, 0x7F⟩, ⟨1, 0xC0, 0x80, 0x7FF⟩, ⟨2, 0xE0, 0x800, 0xD7FF⟩, ⟨2, 0xE0, 0xE000, 0xFFFF⟩,
   ⟨3, 0xF0, 0x10000, 0x10FFFF⟩]

/-- The words for the numbers of a closed range, written with a leading digit behind a mark and
`following` digits of six bits. The range is cut where the last digit does not take all its
values. -/
def digitWords (mark : Nat) : (following : Nat) → (first last : Nat) → List (List ByteRange)
  | 0, first, last => [[⟨mark + first, mark + last⟩]]
  | n + 1, first, last =>
    let digits (a b : Nat) (w : List ByteRange) : List ByteRange := w ++ [⟨0x80 + a, 0x80 + b⟩]
    let (a, b) := (first % 64, last % 64)
    let (high, high') := (first / 64, last / 64)
    if high == high' then (digitWords mark n high high).map (digits a b)
    else
      let head := if a == 0 then [] else (digitWords mark n high high).map (digits a 63)
      let tail := if b == 63 then [] else (digitWords mark n high' high').map (digits 0 b)
      let from' := if a == 0 then high else high + 1
      let upto := if b == 63 then high' + 1 else high'
      let middle :=
        if from' < upto then (digitWords mark n from' (upto - 1)).map (digits 0 63) else []
      head ++ middle ++ tail

/-- The words for the characters of a range that are written in one form. -/
def Width.words (w : Width) (r : Nat × Nat) : List (List ByteRange) :=
  let (first, last) := (max r.1 w.least, min r.2 w.greatest)
  if first ≤ last then digitWords w.mark w.following first last else []

/-- The words for the characters of a class. -/
def byteWords (s : Charset) : List (List ByteRange) :=
  s.ranges.flatMap fun r => widths.flatMap (·.words r)

/-! ## Words by their beginnings -/

/-- Words that begin alike: the first letter, and what follows it in each. -/
structure Group (α : Type) where
  letter : α
  tails : List (List α)

/-- Add a word to the group that its first letter belongs to. -/
def Group.insert {α : Type} [BEq α] (a : α) (tail : List α) : List (Group α) → List (Group α)
  | [] => [⟨a, [tail]⟩]
  | g :: gs =>
    if g.letter == a then ⟨a, g.tails ++ [tail]⟩ :: gs else g :: insert a tail gs

/-- The groups of words that are not empty, in order of their first occurrence. -/
def Group.collect {α : Type} [BEq α] (words : List (List α)) : List (Group α) :=
  words.foldl (fun gs w =>
    match w with
    | [] => gs
    | a :: tail => Group.insert a tail gs) []

end Conformance.Pattern
