import Conformance.Text.Alphanumeric

/-!
# Whole words

The search for a word that stands alone: no word character directly before or after it. The text is
searched from left to right, and the search goes on behind every occurrence.

## Main definitions

* `containsWord`: a text contains a word as a whole
-/

namespace Conformance.Text

/-- No word character stands here. -/
def endsWord (c : Option Char) : Bool :=
  !c.any isWordChar

/-- The search of `word` in the rest of a text behind the character `before`, with the next `skip`
characters belonging to an occurrence already seen. -/
def findWord (word : List Char) : (before : Option Char) → (skip : Nat) → List Char → Bool
  | before, skip, [] => skip == 0 && word.isEmpty && endsWord before
  | _, skip + 1, c :: cs => findWord word (some c) skip cs
  | before, 0, c :: cs =>
    if word.isPrefixOf (c :: cs) then
      (endsWord before && endsWord ((c :: cs).drop word.length).head?) ||
        findWord word (some c) (word.length - 1) cs
    else findWord word (some c) 0 cs

/-- The text contains the word as a whole. -/
def containsWord (text word : String) : Bool :=
  findWord word.toList none 0 text.toList

end Conformance.Text
