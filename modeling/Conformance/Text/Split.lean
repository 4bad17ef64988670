/-!
# Splitting texts

Texts cut at every occurrence of a separator, and texts cut into lines.

## Main definitions

* `splitAt`: the pieces between the occurrences of a separator
* `lines`: the lines of a text
-/

namespace Conformance.Text

/-- The pieces of a text between the occurrences of `sep`; one more than there are occurrences. -/
def splitAt (sep : Char) : List Char → List (List Char)
  | [] => [[]]
  | c :: cs =>
    if c = sep then [] :: splitAt sep cs
    else match splitAt sep cs with
      | [] => [[c]]
      | piece :: pieces => (c :: piece) :: pieces

@[simp] theorem splitAt_nil (sep : Char) : splitAt sep [] = [[]] := rfl

theorem splitAt_ne_nil (sep : Char) (cs : List Char) : splitAt sep cs ≠ [] := by
  cases cs with
  | nil => simp
  | cons c cs =>
    rw [splitAt]
    split
    · simp
    · split <;> simp

/-- A line without the carriage return that its line feed may follow. -/
def dropReturn : List Char → List Char
  | [] => []
  | ['\r'] => []
  | c :: cs => c :: dropReturn cs

/-- Pieces ended by line feeds as lines; behind the last line feed there is a line only if there is
text. -/
def linesOfPieces : List (List Char) → List (List Char)
  | [] => []
  | [last] => if last.isEmpty then [] else [last]
  | piece :: pieces => dropReturn piece :: linesOfPieces pieces

/-- The lines of a text. A line ends at a line feed, with one carriage return before it if there is
one, or at the end of the text. -/
def lines (cs : List Char) : List (List Char) :=
  linesOfPieces (splitAt '\n' cs)

@[simp] theorem lines_nil : lines [] = [] := rfl

end Conformance.Text
