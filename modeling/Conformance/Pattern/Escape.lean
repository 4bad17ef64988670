import Conformance.Pattern.Extent
import Conformance.Pattern.PropertyName

/-!
# Escapes of patterns

The smallest parts of a pattern, and how they are written behind a backslash. Every reader takes
what is left of the text and returns what is left behind its part. A class that there is no way to
know is no fault of the writing: it is kept as such, and complained about when the whole text is
read.

## Main definitions

* `Mode`: the flags in force
* `Atom`: the smallest parts of a pattern
* `Reading`: what a reader comes to
* `escape`: the atom of an escape
-/

namespace Conformance.Pattern

open Text

/-- The flags in force at a point of a pattern. -/
structure Mode where
  /-- Letters match their case variants. -/
  caseless : Bool := false
  /-- The anchors match at line breaks. -/
  multiLine : Bool := false
  /-- A dot matches line breaks too. -/
  dotAll : Bool := false
  /-- Repetitions are lazy unless they are marked. -/
  swapGreed : Bool := false
  /-- Classes range over all of Unicode. -/
  unicode : Bool := true
  /-- A carriage return counts as a line break. -/
  crlf : Bool := false
  /-- Blanks and comments are skipped. -/
  verbose : Bool := false

/-- The smallest parts of a pattern. -/
inductive Atom where
  /-- A character; `byte` when written as two hexadecimal digits. -/
  | char (c : Char) (byte : Bool)
  /-- A named class, or what is wrong with its name; its complement if `negated`. -/
  | set (s : Except Problem Charset) (negated : Bool)
  /-- A position. -/
  | anchor (a : Anchor)

/-- What a reader comes to: a value and what is left of the text. -/
abbrev Reading (α : Type) := Except Complaint (α × List Char)

/-- Complain about a part of the text. -/
def complain {α : Type} (problem : Problem) (start stop : List Char) : Except Complaint α :=
  .error { problem, stretch := ⟨start, stop⟩ }

/-! ## Blanks and comments -/

/-- Drop blanks and comments; `comment` while inside a comment, which ends with its line. -/
def dropRemarks : (comment : Bool) → List Char → List Char
  | _, [] => []
  | true, c :: cs => dropRemarks (c != '\n') cs
  | false, c :: cs =>
    if isBlank c then dropRemarks false cs
    else if c == '#' then dropRemarks true cs
    else c :: cs

/-- Drop what the mode says is to be skipped. -/
def Mode.skip (mode : Mode) (cs : List Char) : List Char :=
  if mode.verbose then dropRemarks false cs else cs

/-! ## Positions -/

/-- Start of the text or, in multi-line mode, of a line. -/
def Mode.lineStart (mode : Mode) : Anchor :=
  if mode.multiLine then .lineStart mode.crlf else .textStart

/-- End of the text or, in multi-line mode, of a line. -/
def Mode.lineEnd (mode : Mode) : Anchor :=
  if mode.multiLine then .lineEnd mode.crlf else .textEnd

/-- An edge of a word. -/
def Mode.edge (mode : Mode) (edge : WordEdge) : Atom :=
  .anchor (.word edge mode.unicode)

/-! ## Numbers -/

/-- The value of a hexadecimal digit. -/
def hexValue? (c : Char) : Option Nat :=
  if '0' ≤ c && c ≤ '9' then some (c.toNat - '0'.toNat)
  else if 'a' ≤ c && c ≤ 'f' then some (c.toNat - 'a'.toNat + 10)
  else if 'A' ≤ c && c ≤ 'F' then some (c.toNat - 'A'.toNat + 10)
  else none

/-- The character with the code point `n`. -/
def charOfCode? (n : Nat) : Option Char :=
  if h : n.isValidChar then some (Char.ofNatAux n h) else none

/-- Exactly `count` hexadecimal digits, added to the value so far. -/
def hexFixed (mode : Mode) : (count : Nat) → (value : Nat) → List Char → Reading Nat
  | 0, value, cs => .ok (value, cs)
  | _ + 1, _, [] => complain .escapeUnfinished [] []
  | count + 1, value, c :: rest =>
    match hexValue? c with
    | some d => hexFixed mode count (value * 16 + d) (mode.skip rest)
    | none => complain .hexDigit (c :: rest) rest

/-- Hexadecimal digits up to a closing brace, which is left; none if there are none. The text was
`brace` at the opening one. Of `fuel` one unit is spent per digit. -/
def hexBraced (mode : Mode) (brace : List Char) : (fuel : Nat) → (value : Option Nat) →
    List Char → Reading (Option Nat)
  | 0, _, _ => complain .escapeUnfinished brace []
  | fuel + 1, value, cs =>
    match mode.skip cs with
    | [] => complain .escapeUnfinished brace []
    | '}' :: rest => .ok (value, '}' :: rest)
    | c :: rest =>
      match hexValue? c with
      | some d => hexBraced mode brace fuel (some (value.getD 0 * 16 + d)) rest
      | none => complain .hexDigit (c :: rest) rest

/-- A hexadecimal escape behind its letter, with the number of digits of its short form. -/
def hexEscape (mode : Mode) (count : Nat) (cs : List Char) :
    Except Complaint (Atom × List Char) :=
  match mode.skip cs with
  | [] => complain .escapeUnfinished [] []
  | '{' :: rest => do
    let (value, stop) ← hexBraced mode ('{' :: rest) (rest.length + 1) none rest
    let behind := mode.skip (stop.drop 1)
    match value with
    | none => complain .hexMissing ('{' :: rest) behind
    | some n =>
      match charOfCode? n with
      | some c => return (.char c false, behind)
      | none => complain .hexNoCharacter rest stop
  | cs => do
    let (n, behind) ← hexFixed mode count 0 cs
    match charOfCode? n with
    | some c => return (.char c (count == 2), behind)
    | none => complain .hexNoCharacter cs behind

/-! ## Escapes -/

/-- Punctuation with a meaning in patterns. -/
def isMeta (c : Char) : Bool :=
  "\\.+*?()|[]\x7b\x7d^$#&-~".toList.contains c

/-- Characters that stand for themselves behind a backslash. -/
def isEscapable (c : Char) : Bool :=
  isMeta c || (Charset.isAscii c && !Charset.isAsciiAlphanumeric c && c != '<' && c != '>')

/-- The letters and hyphens of the name of a word border. -/
def borderName (mode : Mode) : (fuel : Nat) → List Char → List Char × List Char
  | 0, cs => ([], cs)
  | fuel + 1, cs =>
    match cs with
    | [] => ([], [])
    | c :: rest =>
      if isAsciiLetter c || c == '-' then
        let (name, rest) := borderName mode fuel (mode.skip rest)
        (c :: name, rest)
      else ([], c :: rest)

/-- A word border behind its letter, which may be named in braces. Braces that do not begin with a
name are left to be read as a repetition. The text was `escaped` at the backslash. -/
def wordBorder (mode : Mode) (escaped cs : List Char) : Reading Atom :=
  match cs with
  | '{' :: rest =>
    match mode.skip rest with
    | [] => complain .borderOrCountUnclosed escaped []
    | c :: tail =>
      if isAsciiLetter c || c == '-' then
        let (name, stop) := borderName mode (tail.length + 2) (c :: tail)
        match stop with
        | '}' :: behind =>
          match String.ofList name with
          | "start" => .ok (mode.edge .start, behind)
          | "end" => .ok (mode.edge .stop, behind)
          | "start-half" => .ok (mode.edge .startHalf, behind)
          | "end-half" => .ok (mode.edge .stopHalf, behind)
          | _ => complain .borderUnknown (c :: tail) stop
        | _ => complain .borderUnclosed cs stop
      else .ok (mode.edge .border, cs)
  | _ => .ok (mode.edge .border, cs)

/-- Characters up to a closing brace. -/
def braced (mode : Mode) : (fuel : Nat) → List Char → Reading (List Char)
  | 0, _ => complain .escapeUnfinished [] []
  | fuel + 1, cs =>
    match mode.skip cs with
    | [] => complain .escapeUnfinished [] []
    | '}' :: rest => .ok ([], rest)
    | c :: rest => (braced mode fuel rest).map fun (name, rest) => (c :: name, rest)

/-- Split a text at the first occurrence of a separator. -/
def splitAtFirst (sep : List Char) : List Char → Option (List Char × List Char)
  | [] => none
  | c :: cs =>
    if sep.isPrefixOf (c :: cs) then some ([], (c :: cs).drop sep.length)
    else (splitAtFirst sep cs).map fun (a, b) => (c :: a, b)

/-- The class of a property written in braces, a name, or a name and a value, and whether it is
turned into its complement. -/
def bracedProperty (text : List Char) : Except Problem Charset × Bool :=
  match splitAtFirst ['!', '='] text with
  | some (name, value) => (Charset.propertyValue name value, true)
  | none =>
    match (splitAtFirst [':'] text).or (splitAtFirst ['='] text) with
    | some (name, value) => (Charset.propertyValue name value, false)
    | none => (Charset.property text, false)

/-- The class of a property, which there is in Unicode mode only. -/
def Mode.propertyAtom (mode : Mode) (s : Except Problem Charset) (negated : Bool) : Atom :=
  .set (if mode.unicode then s else .error .unicodeForbidden) negated

/-- A Unicode class behind its letter. -/
def propertyEscape (mode : Mode) (negated : Bool) (cs : List Char) :
    Except Complaint (Atom × List Char) :=
  match mode.skip cs with
  | [] => complain .escapeUnfinished [] []
  | '{' :: rest => do
    let (name, behind) ← braced mode (rest.length + 1) rest
    let (s, flipped) := bracedProperty name
    return (mode.propertyAtom s (negated != flipped), behind)
  | '\\' :: rest => complain .propertyLetter ('\\' :: rest) rest
  | c :: rest => .ok (mode.propertyAtom (Charset.property [c]) negated, mode.skip rest)

/-- The class of an escape such as `\d`. -/
def Mode.classLetter? (mode : Mode) (c : Char) : Option Charset :=
  match c with
  | 'd' => some (if mode.unicode then Charset.digit else Charset.asciiDigit)
  | 's' => some (if mode.unicode then Charset.blank else Charset.asciiBlank)
  | 'w' => some (wordSet mode.unicode)
  | _ => none

/-- An escape, behind its backslash. Outside Unicode mode the complement of a class would match
parts of characters. -/
def escape (mode : Mode) (cs : List Char) : Reading Atom :=
  let escaped := '\\' :: cs
  match cs with
  | [] => complain .escapeUnfinished escaped []
  | c :: rest =>
    match mode.classLetter? c with
    | some s => .ok (.set (.ok s) false, rest)
    | none =>
      match mode.classLetter? c.toLower with
      | some s =>
        .ok (.set (if mode.unicode then .ok s else .error .partOfCharacter) true, rest)
      | none =>
        if isAsciiDigit c then complain .backreference escaped rest
        else if isEscapable c then .ok (.char c false, rest)
        else match c with
          | 'x' => hexEscape mode 2 rest
          | 'u' => hexEscape mode 4 rest
          | 'U' => hexEscape mode 8 rest
          | 'p' => propertyEscape mode false rest
          | 'P' => propertyEscape mode true rest
          | 'a' => .ok (.char '\x07' false, rest)
          | 'f' => .ok (.char '\x0c' false, rest)
          | 't' => .ok (.char '\t' false, rest)
          | 'n' => .ok (.char '\n' false, rest)
          | 'r' => .ok (.char '\r' false, rest)
          | 'v' => .ok (.char '\x0b' false, rest)
          | 'A' => .ok (.anchor .textStart, rest)
          | 'z' => .ok (.anchor .textEnd, rest)
          | 'b' => wordBorder mode escaped rest
          | 'B' => .ok (mode.edge .inside, rest)
          | '<' => .ok (mode.edge .start, rest)
          | '>' => .ok (mode.edge .stop, rest)
          | _ => complain .escapeUnknown escaped rest

/-! ## Meaning -/

/-- A class with the case variants of its members, where the mode asks for them. -/
def Mode.fold (mode : Mode) (s : Charset) : Charset :=
  if mode.caseless then
    if mode.unicode then s.caseless else s.asciiCaseless
  else s

/-- A class or its complement, case variants included before the complement is taken. -/
def Mode.setOf (mode : Mode) (s : Charset) (negated : Bool) : Charset :=
  if negated then (mode.fold s).compl else mode.fold s

/-- The tree of an atom. Outside Unicode mode no atom may match part of a character. -/
def Mode.tree (mode : Mode) : Atom → Except Problem Tree
  | .char c byte =>
    if byte && !mode.unicode && !Charset.isAscii c then .error .partOfCharacter
    else .ok (.ofClass (mode.fold (.single c)))
  | .set s negated => s.map fun s => .ofClass (mode.setOf s negated)
  | .anchor a => .ok (.anchor a)

/-- A dot. -/
def Mode.dot (mode : Mode) : Except Problem Tree :=
  if !mode.unicode then .error .partOfCharacter
  else if mode.dotAll then .ok (.set .all)
  else .ok (.set (Charset.ofList (if mode.crlf then ['\r', '\n'] else ['\n'])).compl)

end Conformance.Pattern
