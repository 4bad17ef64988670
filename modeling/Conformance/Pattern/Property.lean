import Conformance.Pattern.Charset
import Conformance.Text.Blank
import Conformance.Text.Alphanumeric
import Conformance.Text.Property
import Conformance.Text.Script
import Conformance.Text.CaseFold

/-!
# Properties of characters in patterns

The classes of characters that patterns know: digits, blanks and word characters, the bracketed
ASCII classes, and those of the general categories and scripts of Unicode. Patterns know the
characters of Unicode 16: a character that was added later is unassigned in a pattern.

## Main definitions

* `Charset.word`, `Charset.digit`, `Charset.blank`: the classes with an escape of their own
* `Charset.ascii?`: the class of an ASCII class name, as in `[:alpha:]`
* `Charset.ofCategory`, `Charset.ofScript`, `Charset.tabled?`: the classes of Unicode
* `Charset.caseless`: a class together with the case variants of its members
-/

namespace Conformance.Charset

open Text

/-! ## ASCII classes -/

/-- An ASCII character. -/
def isAscii (c : Char) : Bool := c.toNat < 128

/-- An ASCII letter or digit. -/
def isAsciiAlphanumeric (c : Char) : Bool := isAsciiLetter c || isAsciiDigit c

/-- The ASCII characters. -/
def ascii : Charset := range '\x00' '\x7f'

/-- The ASCII digits. -/
def asciiDigit : Charset := range '0' '9'

/-- The ASCII letters. -/
def asciiLetter : Charset := (range 'A' 'Z').union (range 'a' 'z')

/-- The ASCII letters and digits. -/
def asciiAlphanumeric : Charset := asciiLetter.union asciiDigit

/-- The ASCII letters, digits and the underscore. -/
def asciiWord : Charset := asciiAlphanumeric.union (single '_')

/-- The ASCII blanks: tab, the line and page breaks, space. -/
def asciiBlank : Charset := (range '\t' '\x0d').union (single ' ')

/-- The printing ASCII characters other than the space. -/
def asciiGraphic : Charset := range '!' '~'

/-- The ASCII class of a name, as written between `[:` and `:]`. -/
def ascii? : String → Option Charset
  | "alnum" => some asciiAlphanumeric
  | "alpha" => some asciiLetter
  | "ascii" => some ascii
  | "blank" => some (ofList ['\t', ' '])
  | "cntrl" => some ((range '\x00' '\x1f').union (single '\x7f'))
  | "digit" => some asciiDigit
  | "graph" => some asciiGraphic
  | "lower" => some (range 'a' 'z')
  | "print" => some (range ' ' '~')
  | "punct" => some (asciiGraphic.diff asciiAlphanumeric)
  | "space" => some asciiBlank
  | "upper" => some (range 'A' 'Z')
  | "word" => some asciiWord
  | "xdigit" => some ((asciiDigit.union (range 'a' 'f')).union (range 'A' 'F'))
  | _ => Option.none

/-! ## Characters of Unicode 16 -/

/-- The characters that Unicode 17 added. -/
def newcomers : Charset := ⟨
  [(0x88F, 0x88F), (0xC5C, 0xC5C), (0xCDC, 0xCDC), (0x1ACF, 0x1ADD), (0x1AE0, 0x1AEB),
   (0x20C1, 0x20C1), (0x2B96, 0x2B96), (0xA7CE, 0xA7CF), (0xA7D2, 0xA7D2), (0xA7D4, 0xA7D4),
   (0xA7F1, 0xA7F1), (0xFBC3, 0xFBD2), (0xFD90, 0xFD91), (0xFDC8, 0xFDCE), (0x10940, 0x10959),
   (0x10EC5, 0x10EC7), (0x10ED0, 0x10ED8), (0x10EFA, 0x10EFB), (0x11B60, 0x11B67),
   (0x11DB0, 0x11DDB), (0x11DE0, 0x11DE9), (0x16EA0, 0x16EB8), (0x16EBB, 0x16ED3),
   (0x16FF2, 0x16FF6), (0x187F8, 0x187FF), (0x18D09, 0x18D1E), (0x18D80, 0x18DF2),
   (0x1CCFA, 0x1CCFC), (0x1CEBA, 0x1CED0), (0x1CEE0, 0x1CEF0), (0x1E6C0, 0x1E6DE),
   (0x1E6E0, 0x1E6F5), (0x1E6FE, 0x1E6FF), (0x1F6D8, 0x1F6D8), (0x1F777, 0x1F77A),
   (0x1F8D0, 0x1F8D8), (0x1FA54, 0x1FA57), (0x1FA8A, 0x1FA8A), (0x1FA8E, 0x1FA8E),
   (0x1FAC8, 0x1FAC8), (0x1FACD, 0x1FACD), (0x1FAEA, 0x1FAEA), (0x1FAEF, 0x1FAEF),
   (0x1FBFA, 0x1FBFA), (0x2B73A, 0x2B73F), (0x2CEA2, 0x2CEAD), (0x323B0, 0x33479)]⟩

/-- The character whose category Unicode 17 changed: a lowercase letter before. -/
def reclassified : Charset := single '\u0295'

/-- The ranges of a table of runs whose category satisfies `p`; the table begins at `first`. -/
def runsWhere (p : Category → Bool) : (first : Nat) → List (Nat × Category) → CodeRanges
  | _, [] => []
  | first, (len, cat) :: rest =>
    if p cat then (first, first + len - 1) :: runsWhere p (first + len) rest
    else runsWhere p (first + len) rest

/-- The characters whose general category satisfies `p`. -/
def ofCategory (p : Category → Bool) : Charset :=
  let runs := runsWhere (fun k => k != ⟨'C', 's'⟩ && p k) 0 categoryTable
  let kept := (ofRanges runs).diff (newcomers.union reclassified)
  let kept := if p ⟨'C', 'n'⟩ then kept.union newcomers else kept
  if p ⟨'L', 'l'⟩ then kept.union reclassified else kept

/-- The alphabetic characters. -/
def alphabetic : Charset := (ofRanges alphabeticRanges).diff newcomers

/-- The decimal digits of all scripts. -/
def digit : Charset := ofCategory (· == ⟨'N', 'd'⟩)

/-- The blanks. -/
def blank : Charset := ofRanges blankRanges

/-- The characters that join the letters on either side, or keep them apart. -/
def joiner : Charset := range '\u200c' '\u200d'

/-- The word characters: alphabetic characters, marks, decimal digits, connectors and joiners. -/
def word : Charset :=
  (alphabetic.union joiner).union
    (ofCategory fun k => k.major == 'M' || k == ⟨'N', 'd'⟩ || k == ⟨'P', 'c'⟩)

/-- The characters that extend the one before them. -/
def extender : Charset :=
  (ofCategory fun k => k == ⟨'M', 'n'⟩ || k == ⟨'M', 'e'⟩).union (ofRanges otherExtenders)

/-- The characters of a script, by its code. -/
def ofScript (code : List Char) : Charset := ofRanges (scriptRanges code)

/-- The characters that a property holds of. -/
def ofProperty (p : BinaryProperty) : Charset :=
  (ofCategory p.follows).symmDiff (ofRanges p.exceptionRanges)

/-- The characters with a property of the table, by one of its names. -/
def tabled? (name : String) : Option Charset :=
  (binaryProperties.find? fun p => p.names.contains name).map ofProperty

/-! ## Case variants -/

/-- The class of characters that differ at most in case from a member of `s`. -/
def caseless (s : Charset) : Charset :=
  s.union (ofList ((caseClasses.filter fun w => w.any s.contains).flatMap id))

/-- The ASCII letters, in both cases. -/
def asciiLetterPairs : List (List Char) :=
  "abcdefghijklmnopqrstuvwxyz".toList.map fun c => [c, c.toUpper]

/-- The class of characters that differ at most in ASCII case from a member of `s`. -/
def asciiCaseless (s : Charset) : Charset :=
  s.union (ofList ((asciiLetterPairs.filter fun w => w.any s.contains).flatMap id))

end Conformance.Charset
