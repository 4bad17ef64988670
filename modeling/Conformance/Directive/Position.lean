import Conformance.Directive
import Conformance.Literal.Scanner

/-!
# Taking a line apart by position

The key of a directive and what stands behind it once more, as they are taken out of the line by
byte positions. The key ends before the first character that does not belong to it, or else at the
end of the line. A piece is there only if its positions are in order and between two characters, and
else the program panics. Every piece that is taken is noted.

## Main definitions

* `Directive.keyEnd`: the position at which a key ends
* `Directive.Piece`, `Directive.Piece.chars?`: a piece of a text, and the characters in it
* `Directive.cutLine`: the key of a line and what stands behind its colon
-/

namespace Conformance.Directive

open Text
open Literal (byteLength)
open Literal.Scanner (Outcome)

/-- The characters of a text and their positions, of which the first is `pos`. -/
def charPositions : (pos : Nat) → List Char → List (Nat × Char)
  | _, [] => []
  | pos, c :: cs => (pos, c) :: charPositions (pos + c.utf8Size) cs

/-- The position of the first character, other than that at the start, which is not a word
character; the end of the text if there is none. -/
def keyEnd (content : List Char) : Nat :=
  ((((charPositions 0 content).drop 1).find? fun e => !isWordChar e.2).map Prod.fst).getD
    (byteLength content)

/-- A piece of a text, by the positions at which it starts and stops. -/
structure Piece where
  text : List Char
  start : Nat
  stop : Nat
deriving DecidableEq

/-- The characters of a piece, if it is there. -/
def Piece.chars? (p : Piece) : Option (List Char) :=
  Literal.Scanner.slice? p.text p.start p.stop

/-- The key at the start of a text and what follows its colon, and the pieces that are taken. -/
def cutKey (content : List Char) : Outcome (Option (List Char × List Char)) × List Piece :=
  if content.head?.any beginsKey then
    let key : Piece := ⟨content, 0, keyEnd content⟩
    let behind : Piece := ⟨content, keyEnd content, byteLength content⟩
    match key.chars?, behind.chars? with
    | some word, some cs =>
      match trimStart cs with
      | ':' :: rest => (.done (some (word, rest)), [key, behind])
      | _ => (.done none, [key, behind])
    | _, _ => (.panicked, [key, behind])
  else (.done none, [])

/-- The key and the rest of a line of the shape of a directive, and the pieces that are taken. -/
def cutLine (line : List Char) : Outcome (Option (List Char × List Char)) × List Piece :=
  match trimStart line with
  | '-' :: '-' :: cs => cutKey (trimStart cs)
  | _ => (.done none, [])

end Conformance.Directive
