import Conformance.Literal.Parser
import Mathlib.Data.Nat.Digits.Defs

/-!
# The grammar of literals

What a text has to look like to denote a literal, stated as rules of derivation and without regard
to how it is read. Blanks may stand between the parts of a list and of a named pattern, and nowhere
else inside a literal.

## Main definitions

* `Blanks`: a run of blanks
* `Quoted`, `StringText`: strings, by what their items stand for
* `IntegerText`: integers, by their decimal value
* `ListTail`: what may follow a string in a list
* `Slashed`: what stands between the slashes of a pattern
* `Denotes`: the literal that a text denotes
-/

namespace Conformance.Literal

open Text

/-- A run of blanks. -/
def Blanks (w : List Char) : Prop :=
  ∀ c ∈ w, isBlank c = true

/-! ## Strings -/

/-- The escapes of a string, and the character that each stands for. -/
def escapes : List (Char × Char) :=
  [('n', '\n'), ('t', '\t'), ('r', '\r'), ('0', '\x00'), ('\\', '\\'), ('\'', '\''), ('"', '"')]

/-- What a backslash and a character stand for: in a string that is not raw an escape stands for its
character, and everything else for itself. -/
def pairValue (raw : Bool) (e : Char) : List Char :=
  match raw, escapes.lookup e with
  | false, some c => [c]
  | _, _ => ['\\', e]

/-- The items between the quotes of a string, and what they stand for. An item is a character other
than a backslash and the quote, or a backslash and any one character. -/
inductive Quoted (raw : Bool) (quote : Char) : List Char → List Char → Prop
  | nil : Quoted raw quote [] []
  | plain {c : Char} {text value : List Char} (hc : c ≠ '\\') (hq : c ≠ quote)
    (h : Quoted raw quote text value) : Quoted raw quote (c :: text) (c :: value)
  | pair (e : Char) {text value : List Char} (h : Quoted raw quote text value) :
    Quoted raw quote ('\\' :: e :: text) (pairValue raw e ++ value)

/-- A string in its quotes, single or double, with an `r` before them if it is raw. -/
inductive StringText : List Char → String → Prop
  | cooked {quote : Char} {text value : List Char} (hq : quote = '\'' ∨ quote = '"')
    (h : Quoted false quote text value) :
    StringText (quote :: (text ++ [quote])) (String.ofList value)
  | raw {quote : Char} {text value : List Char} (hq : quote = '\'' ∨ quote = '"')
    (h : Quoted true quote text value) :
    StringText ('r' :: quote :: (text ++ [quote])) (String.ofList value)

/-! ## Integers -/

/-- Digits, each of them optionally behind one underscore. -/
inductive Separated : List Char → Prop
  | nil : Separated []
  | digit {d : Char} {text : List Char} (hd : isAsciiDigit d = true) (h : Separated text) :
    Separated (d :: text)
  | underscore {d : Char} {text : List Char} (hd : isAsciiDigit d = true) (h : Separated text) :
    Separated ('_' :: d :: text)

/-- The decimal value of digits, the most significant one first. Underscores count for nothing. -/
def decimalValue (text : List Char) : Nat :=
  Nat.ofDigits 10 ((text.filter (· ≠ '_')).reverse.map fun d => d.toNat - '0'.toNat)

/-- The optional sign of an integer, and whether it makes the integer negative. -/
inductive Sign : List Char → Bool → Prop
  | none : Sign [] false
  | plus : Sign ['+'] false
  | minus : Sign ['-'] true

/-- An integer: an optional sign, a digit, and digits each of them optionally behind one
underscore. -/
inductive IntegerText : List Char → Int → Prop
  | intro {sign text : List Char} {negative : Bool} {d : Char} (hs : Sign sign negative)
    (hd : isAsciiDigit d = true) (h : Separated text) :
    IntegerText (sign ++ d :: text)
      (if negative = true then -decimalValue (d :: text) else decimalValue (d :: text))

/-! ## Lists and patterns -/

/-- What follows a string in a list, up to the closing bracket, and the further items in it. A comma
may stand before the bracket. -/
inductive ListTail : List Char → List String → Prop
  | close {w : List Char} (hw : Blanks w) : ListTail (w ++ [']']) []
  | trailing {w w' : List Char} (hw : Blanks w) (hw' : Blanks w') :
    ListTail (w ++ ',' :: (w' ++ [']'])) []
  | next {w w' text tail : List Char} {item : String} {items : List String} (hw : Blanks w)
    (hw' : Blanks w') (hitem : StringText text item) (h : ListTail tail items) :
    ListTail (w ++ ',' :: (w' ++ (text ++ tail))) (item :: items)

/-- The items between the slashes of a pattern, and what they stand for. A slash stands behind a
backslash, which is then dropped, and any other character keeps its backslash. -/
inductive Slashed : List Char → List Char → Prop
  | nil : Slashed [] []
  | plain {c : Char} {text value : List Char} (hc : c ≠ '\\') (hs : c ≠ '/')
    (h : Slashed text value) : Slashed (c :: text) (c :: value)
  | slash {text value : List Char} (h : Slashed text value) :
    Slashed ('\\' :: '/' :: text) ('/' :: value)
  | pair {e : Char} {text value : List Char} (he : e ≠ '/') (h : Slashed text value) :
    Slashed ('\\' :: e :: text) ('\\' :: e :: value)

/-! ## Literals -/

/-- The words for booleans. -/
def booleans : List (List Char × Bool) :=
  [("True".toList, true), ("true".toList, true), ("False".toList, false), ("false".toList, false)]

/-- **The literal that a text denotes.** An integer has to fit into 64 bits, and the source of a
pattern has to be one. -/
inductive Denotes : List Char → Literal → Prop
  | boolean {text : List Char} {value : Bool} (h : (text, value) ∈ booleans) :
    Denotes text (.boolean value)
  | integer {text : List Char} {value : Int64} (h : IntegerText text value.toInt) :
    Denotes text (.integer value)
  | string {text : List Char} {value : String} (h : StringText text value) :
    Denotes text (.string value)
  | emptyList {w : List Char} (hw : Blanks w) : Denotes ('[' :: (w ++ [']'])) (.list [])
  | list {w text tail : List Char} {item : String} {items : List String} (hw : Blanks w)
    (hitem : StringText text item) (h : ListTail tail items) :
    Denotes ('[' :: (w ++ (text ++ tail))) (.list (item :: items))
  | compiled {w w' w'' text : List Char} {p : Pattern} (hw : Blanks w) (hw' : Blanks w')
    (h : StringText text p.source) (hw'' : Blanks w'') :
    Denotes ("re.compile".toList ++ (w ++ '(' :: (w' ++ (text ++ (w'' ++ [')']))))) (.pattern p)
  | slashed {text value : List Char} {p : Pattern} (h : Slashed text value)
    (hp : p.source = String.ofList value) : Denotes ('/' :: (text ++ ['/'])) (.pattern p)

end Conformance.Literal
