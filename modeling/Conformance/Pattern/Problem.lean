import Conformance.Text.Split

/-!
# What is wrong with a pattern

A complaint about the text of a pattern names a problem and shows the part of the text that it is
about, by marks under its lines. While a pattern is read, a part is given by what is left of the
text at its two ends; the complaint has the numbers of lines and columns instead.

## Main definitions

* `Problem`: what can be wrong with the text of a pattern
* `Stretch`, `Span`: a part of the text, by what is left at its ends and by its places
* `Complaint`: a problem and the part that it is about
* `Error`: why a text is no pattern
* `Error.message`: its text
-/

namespace Conformance.Pattern

open Text

/-- What can be wrong with the text of a pattern. -/
inductive Problem where
  | groupUnclosed
  | groupUnopened
  | lookAround
  | nameEmpty
  | nameInvalid
  | nameUnclosed
  | nameRepeated
  | flagUnknown
  | flagRepeated
  | flagMissing
  | negationRepeated
  | negationDangling
  | nothingRepeated
  | countUnclosed
  | countMissing
  | countTooGreat
  | countsReversed
  | escapeUnfinished
  | escapeUnknown
  | backreference
  | hexMissing
  | hexDigit
  | hexNoCharacter
  | borderUnclosed
  | borderUnknown
  | borderOrCountUnclosed
  | propertyLetter
  | classUnclosed
  | classEscape
  | rangeBound
  | rangeReversed
  /-- There are more levels of nesting than this. -/
  | nestedTooDeeply (limit : Nat)
  | unicodeForbidden
  | partOfCharacter
  | propertyUnknown
  | propertyValueUnknown
deriving DecidableEq, Repr

/-- The text of a problem. -/
def Problem.phrase : Problem → String
  | groupUnclosed => "unclosed group"
  | groupUnopened => "unopened group"
  | lookAround => "look-around, including look-ahead and look-behind, is not supported"
  | nameEmpty => "empty capture group name"
  | nameInvalid => "invalid capture group character"
  | nameUnclosed => "unclosed capture group name"
  | nameRepeated => "duplicate capture group name"
  | flagUnknown => "unrecognized flag"
  | flagRepeated => "duplicate flag"
  | flagMissing => "expected flag but got end of regex"
  | negationRepeated => "flag negation operator repeated"
  | negationDangling => "dangling flag negation operator"
  | nothingRepeated => "repetition operator missing expression"
  | countUnclosed => "unclosed counted repetition"
  | countMissing => "repetition quantifier expects a valid decimal"
  | countTooGreat => "decimal literal invalid"
  | countsReversed => "invalid repetition count range, the start must be <= the end"
  | escapeUnfinished => "incomplete escape sequence, reached end of pattern prematurely"
  | escapeUnknown => "unrecognized escape sequence"
  | backreference => "backreferences are not supported"
  | hexMissing => "hexadecimal literal empty"
  | hexDigit => "invalid hexadecimal digit"
  | hexNoCharacter => "hexadecimal literal is not a Unicode scalar value"
  | borderUnclosed =>
    "special word boundary assertion is either unclosed or contains an invalid character"
  | borderUnknown =>
    "unrecognized special word boundary assertion, " ++
      "valid choices are: start, end, start-half or end-half"
  | borderOrCountUnclosed =>
    "found either the beginning of a special word boundary or a bounded repetition " ++
      "on a \\b with an opening brace, but no closing brace"
  | propertyLetter => "invalid Unicode character class"
  | classUnclosed => "unclosed character class"
  | classEscape => "invalid escape sequence found in character class"
  | rangeBound => "invalid range boundary, must be a literal"
  | rangeReversed => "invalid character class range, the start must be <= the end"
  | nestedTooDeeply limit =>
    "exceed the maximum number of nested parentheses/brackets (" ++ toString limit ++ ")"
  | unicodeForbidden => "Unicode not allowed here"
  | partOfCharacter => "pattern can match invalid UTF-8"
  | propertyUnknown => "Unicode property not found"
  | propertyValueUnknown => "Unicode property value not found"

/-! ## Parts of a text -/

/-- A part of a text, by what is left of the text where it begins and where it ends. -/
structure Stretch where
  start : List Char
  stop : List Char

/-- A problem, the part of a text that it is about and an earlier part that it refers to, if it does
so. -/
structure Complaint where
  problem : Problem
  stretch : Stretch
  earlier : Option Stretch := none

/-- A place of a text: the number of characters before it, and its line and column, counted from
one. -/
structure Position where
  offset : Nat
  line : Nat
  column : Nat
deriving DecidableEq, Repr

/-- The place of a text where `left` is left of it. -/
def Position.of (text left : List Char) : Position :=
  let before := text.take (text.length - left.length)
  { offset := before.length
    line := before.count '\n' + 1
    column := (before.reverse.takeWhile (· != '\n')).length + 1 }

/-- A part of a text, by the places where it begins and where it ends. -/
structure Span where
  start : Position
  stop : Position
deriving DecidableEq, Repr

/-- The places of a part of a text. -/
def Stretch.span (text : List Char) (s : Stretch) : Span :=
  ⟨.of text s.start, .of text s.stop⟩

/-- The parts come in the order of their beginnings, and if these are one of their ends. -/
def Span.precedes (s t : Span) : Bool :=
  s.start.offset < t.start.offset ||
    (s.start.offset == t.start.offset && s.stop.offset ≤ t.stop.offset)

theorem Span.precedes_iff {s t : Span} :
    s.precedes t ↔ s.start.offset < t.start.offset ∨
      s.start.offset = t.start.offset ∧ s.stop.offset ≤ t.stop.offset := by
  simp [precedes]

theorem Span.precedes_trans {s t u : Span} (hst : s.precedes t) (htu : t.precedes u) :
    s.precedes u := by
  rw [precedes_iff] at hst htu ⊢
  omega

theorem Span.precedes_total (s t : Span) : s.precedes t || t.precedes s := by
  rw [Bool.or_eq_true, precedes_iff, precedes_iff]
  omega

/-- The part lies within one line. -/
def Span.isInLine (s : Span) : Bool :=
  s.start.line == s.stop.line

/-! ## Errors -/

/-- Why a text is no pattern. -/
inductive Error where
  /-- It is not written as a pattern. The parts that the complaint is about are in order. -/
  | malformed (text : String) (problem : Problem) (spans : List Span)
  /-- It is a pattern of more than this number of bytes. -/
  | tooLarge (limit : Nat)
deriving DecidableEq, Repr

/-- The error by a complaint about a text. -/
def Complaint.error (text : List Char) (c : Complaint) : Error :=
  let spans := (c.stretch :: c.earlier.toList).map (Stretch.span text)
  .malformed (String.ofList text) c.problem (spans.mergeSort Span.precedes)

/-- A complaint shows the whole text, with its parts in order. -/
theorem Complaint.error_eq_malformed (text : List Char) (c : Complaint) :
    ∃ spans, c.error text = .malformed (String.ofList text) c.problem spans ∧
      spans.Pairwise (Span.precedes · ·) := by
  refine ⟨_, rfl, ?_⟩
  apply List.pairwise_mergeSort
  · intro s t u
    exact Span.precedes_trans
  · exact Span.precedes_total

/-- Marks under some parts of a line, of which `column` columns are written: at least one for each
part. -/
def marksFrom (column : Nat) : List Span → List Char
  | [] => []
  | s :: rest =>
    let first := max column (s.start.column - 1)
    let width := max 1 (s.stop.column - s.start.column)
    List.replicate (first - column) ' ' ++ List.replicate width '^' ++
      marksFrom (first + width) rest

/-- A line behind its head, and the marks under it. -/
def markedLine (head : List Char) (line : List Char) (spans : List Span) : List Char :=
  head ++ line ++ ['\n'] ++
    if spans.isEmpty then []
    else List.replicate head.length ' ' ++ marksFrom 0 spans ++ ['\n']

/-- What stands before a line: its number, if there are several. -/
def lineHead (several : Bool) (width number : Nat) : List Char :=
  if several then
    let digits := (toString number).toList
    List.replicate (width - digits.length) ' ' ++ digits ++ [':', ' ']
  else [' ', ' ', ' ', ' ']

/-- The lines of a text with the marks for those of the parts that lie within a line. -/
def markedLines (text : List Char) (spans : List Span) : List Char :=
  -- behind a line feed at the end a part may lie in one more line
  let count := (lines text).length + if text.getLast? == some '\n' then 1 else 0
  ((lines text).mapIdx fun i line =>
    markedLine (lineHead (text.contains '\n') (toString count).length (i + 1)) line
      (spans.filter fun s => s.isInLine && s.start.line == i + 1)).flatten

/-- The words for a part of several lines. -/
def Span.phrase (s : Span) : String :=
  "on line " ++ toString s.start.line ++ " (column " ++ toString s.start.column ++
    ") through line " ++ toString s.stop.line ++ " (column " ++ toString (s.stop.column - 1) ++ ")"

/-- The text of an error. A text of several lines is framed, and the parts that cover several of
them are put into words. -/
def Error.message : Error → String
  | malformed text problem spans =>
    let marked := String.ofList (markedLines text.toList spans)
    let wide := spans.filter fun s => !s.isInLine
    let rule := String.ofList (List.replicate 79 '~') ++ "\n"
    let shown :=
      if text.toList.contains '\n' then
        rule ++ marked ++ rule ++
          if wide.isEmpty then "" else "\n".intercalate (wide.map Span.phrase) ++ "\n"
      else marked
    "regex parse error:\n" ++ shown ++ "error: " ++ problem.phrase
  | tooLarge limit => "Compiled regex exceeds size limit of " ++ toString limit ++ " bytes."

end Conformance.Pattern
