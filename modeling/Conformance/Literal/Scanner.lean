import Conformance.Literal.Parser

/-!
# Reading literals by position

The reader of literals once more, as it moves through a text by byte positions. It looks at the text
from its position on and takes pieces out of it; both are there only if the positions are within the
text, in order, and between two characters, and else the scan panics. A loop or a nesting that went
on for longer than the text allows would exhaust its fuel. Every position that is reached is noted,
and so is every piece that is taken and every value that is begun inside another one.

## Main definitions

* `Scanner.Outcome`, `Scanner.Cursor`: what a scan comes to, and where it stands
* `Scanner.dropBytes?`, `Scanner.slice?`: pieces of a text by their positions
* `Scanner.value`: the scan of a value
* `Scanner.scan`: the scan of a whole text
-/

namespace Conformance.Literal.Scanner

open Text

/-! ## Pieces of a text -/

/-- The text behind so many bytes, if they end between two characters. -/
def dropBytes? : List Char → Nat → Option (List Char)
  | cs, 0 => some cs
  | [], _ + 1 => none
  | c :: cs, n + 1 => if c.utf8Size ≤ n + 1 then dropBytes? cs (n + 1 - c.utf8Size) else none

/-- The first so many bytes of a text, if they end between two characters. -/
def takeBytes? : List Char → Nat → Option (List Char)
  | _, 0 => some []
  | [], _ + 1 => none
  | c :: cs, n + 1 =>
    if c.utf8Size ≤ n + 1 then (takeBytes? cs (n + 1 - c.utf8Size)).map (c :: ·) else none

/-- The piece of a text between two positions, if they are in order and each is between two
characters. -/
def slice? (text : List Char) (start stop : Nat) : Option (List Char) :=
  if start ≤ stop then (dropBytes? text start).bind (takeBytes? · (stop - start)) else none

/-! ## Scans -/

/-- What is noted of a scan. -/
inductive Step where
  /-- The position is reached. -/
  | reached (pos : Nat)
  /-- A piece is taken. -/
  | taken (start stop : Nat)
  /-- A value is begun inside the one that was begun at `outer`. The last value that was begun there
  before it, or else the outer one, was begun at `previous`. -/
  | nested (outer previous start : Nat)
deriving DecidableEq

/-- Where a scan stands, and what was noted of it. -/
structure Cursor where
  pos : Nat
  log : List Step

/-- What a scan comes to. -/
inductive Outcome (α : Type) where
  | done (value : α)
  | failed (error : Error)
  /-- There is no such piece of the text. -/
  | panicked
  /-- A loop or a nesting took too long. -/
  | exhausted

/-- A scan of a text. -/
def Scan (α : Type) : Type :=
  List Char → Cursor → Outcome α × Cursor

variable {α β : Type}

/-- Go on with what a scan comes to, if it is done. -/
def andThen (m : Scan α) (next : α → Scan β) : Scan β :=
  fun text s =>
    match m text s with
    | (.done a, s) => next a text s
    | (.failed e, s) => (.failed e, s)
    | (.panicked, s) => (.panicked, s)
    | (.exhausted, s) => (.exhausted, s)

instance : Monad Scan where
  pure a := fun _ s => (.done a, s)
  bind := andThen

/-- The position. -/
def position : Scan Nat :=
  fun _ s => (.done s.pos, s)

/-- The text from the position on. -/
def rest : Scan (List Char) :=
  fun text s =>
    match dropBytes? text s.pos with
    | some cs => (.done cs, s)
    | none => (.panicked, s)

/-- The piece from an earlier position on. -/
def slice (start : Nat) : Scan (List Char) :=
  fun text s =>
    match slice? text start s.pos with
    | some cs => (.done cs, { s with log := s.log ++ [.taken start s.pos] })
    | none => (.panicked, s)

/-- Go on behind a character. -/
def advance (c : Char) : Scan Unit :=
  fun _ s => (.done (), ⟨s.pos + c.utf8Size, s.log ++ [.reached (s.pos + c.utf8Size)]⟩)

/-- Note that a value is begun inside another one. -/
def nest (outer previous : Nat) : Scan Unit :=
  fun _ s => (.done (), { s with log := s.log ++ [.nested outer previous s.pos] })

/-- Fail for something at an earlier position. -/
def failAt (cause : Cause) (offset : Nat) : Scan α :=
  fun _ s => (.failed ⟨cause, offset⟩, s)

/-- Fail for something at the position. -/
def fail (cause : Cause) : Scan α := do
  failAt cause (← position)

/-- Run out of fuel. -/
def exhaust : Scan α :=
  fun _ s => (.exhausted, s)

/-- A loop that goes on at most once for every character of the text, and ends. -/
def bounded (loop : Nat → Scan α) : Scan α :=
  fun text s => loop (text.length + 1) text s

/-- The next character. -/
def peek : Scan (Option Char) := do
  return (← rest).head?

/-- The character behind the next one. -/
def peekSecond : Scan (Option Char) := do
  return (← rest)[1]?

/-- Take the next character. -/
def bump : Scan (Option Char) := do
  match ← peek with
  | none => return none
  | some c =>
    advance c
    return some c

/-- Take the next character if it is this one. -/
def eat (c : Char) : Scan Bool := do
  if (← peek) = some c then
    advance c
    return true
  else return false

/-- Take characters of a class for as long as there are any. -/
def skipWhile (p : Char → Bool) : (fuel : Nat) → Scan Unit
  | 0 => exhaust
  | fuel + 1 => do
    if (← peek).any p then
      let _ ← bump
      skipWhile p fuel
    else return ()

/-- Take blanks. -/
def skipBlanks : Scan Unit :=
  bounded (skipWhile isBlank)

/-! ## Strings and patterns -/

/-- Take a string behind its opening quote, of which `out` was taken before. -/
def quoted (raw : Bool) (quote : Char) : (out : List Char) → (fuel : Nat) → Scan (List Char)
  | _, 0 => exhaust
  | out, fuel + 1 => do
    match ← bump with
    | none => fail .unterminatedString
    | some c =>
      if c = quote then return out
      else if c = '\\' then
        match ← bump with
        | none => fail .unterminatedString
        | some e => quoted raw quote (out ++ unescape raw e) fuel
      else quoted raw quote (out ++ [c]) fuel

/-- Take a string with its quotes. -/
def string (raw : Bool) : Scan Literal := do
  match ← bump with
  | none => fail .expectedString
  | some quote => return .string (String.ofList (← bounded (quoted raw quote [])))

/-- The pattern with the given source, which began at an earlier position. -/
def compileAt (source : List Char) (offset : Nat) : Scan Literal :=
  match Pattern.compile (String.ofList source) with
  | .ok p => return .pattern p
  | .error reason => failAt (.invalidPattern reason) offset

/-- Take a pattern behind its opening slash, of which `out` was taken before. -/
def slashed : (out : List Char) → (fuel : Nat) → Scan (List Char)
  | _, 0 => exhaust
  | out, fuel + 1 => do
    match ← bump with
    | none => fail .unterminatedPattern
    | some c =>
      if c = '/' then return out
      else if c = '\\' then
        match ← bump with
        | none => fail .unterminatedPattern
        | some e => slashed (out ++ if e = '/' then ['/'] else ['\\', e]) fuel
      else slashed (out ++ [c]) fuel

/-- Take a pattern with its slashes. -/
def slashPattern : Scan Literal := do
  let start ← position
  let _ ← bump
  compileAt (← bounded (slashed [])) start

/-! ## Integers -/

/-- The digits of an integer go on: with a digit, or with an underscore before one. -/
def digitsGoOn (next second : Option Char) : Bool :=
  next.any isAsciiDigit || (next == some '_' && second.any isAsciiDigit)

/-- Take digits. -/
def digits : (fuel : Nat) → Scan Unit
  | 0 => exhaust
  | fuel + 1 => do
    if digitsGoOn (← peek) (← peekSecond) then
      let _ ← bump
      digits fuel
    else return ()

/-- What a sign and digits stand for, or the error for them at an earlier position. -/
def settle (negative : Bool) (ds : List Char) (offset : Nat) : Scan Literal :=
  match integerOf negative ds [] [] with
  | .ok (v, _) => return v
  | .error stop => failAt stop.cause offset

/-- The integer that is written so and began at an earlier position. -/
def integerAt (written : List Char) (offset : Nat) : Scan Literal :=
  match written with
  | '-' :: ds => settle true ds offset
  | '+' :: ds => settle false ds offset
  | ds => settle false ds offset

/-- Take the digits of an integer that began at an earlier position. -/
def unsigned (start : Nat) : Scan Literal := do
  if (← peek).any isAsciiDigit then
    bounded digits
    integerAt ((← slice start).filter (· ≠ '_')) start
  else fail .expectedDigits

/-- Take an integer. -/
def integer : Scan Literal := do
  let start ← position
  if (← peek).any (fun c => c == '-' || c == '+') then
    let _ ← bump
    unsigned start
  else unsigned start

/-! ## Values -/

/-- Take the parentheses of a pattern with the `nested` value between them, inside of a value that
was begun at `outer`. -/
def compileCall (nested : Scan Literal) (outer : Nat) : Scan Literal := do
  skipBlanks
  if ← eat '(' then
    skipBlanks
    let start ← position
    nest outer outer
    match ← nested with
    | .string source =>
      skipBlanks
      if ← eat ')' then compileAt source.toList start else fail .expectedClosing
    | other => failAt (.patternFromOther other.kind) start
  else fail .expectedOpening

/-- Take a word, or a raw string, inside of a value that was begun at `outer`. -/
def word (nested : Scan Literal) (outer : Nat) : Scan Literal := do
  if (← peek) = some 'r' ∧ (← peekSecond).any isQuote then
    let _ ← bump
    string true
  else
    let start ← position
    bounded (skipWhile continuesWord)
    let word ← slice start
    if word = "True".toList ∨ word = "true".toList then return .boolean true
    else if word = "False".toList ∨ word = "false".toList then return .boolean false
    else if word = "re.compile".toList then compileCall nested outer
    else failAt (.unsupportedExpression word) start

/-- Take a list with its brackets; `items` takes what stands behind the first one. -/
def list (items : Scan Literal) : Scan Literal := do
  let _ ← bump
  skipBlanks
  if ← eat ']' then return .list [] else items

mutual

/-- Take a value, with blanks before it. -/
def value : (fuel : Nat) → Scan Literal
  | 0 => exhaust
  | fuel + 1 => do
    let outer ← position
    skipBlanks
    match ← peek with
    | none => fail .expectedLiteral
    | some c =>
      if c = '[' then list (items outer outer [] fuel)
      else if isQuote c then string false
      else if c = '/' then slashPattern
      else if beginsInteger c then integer
      else if isAlphabetic c || c == '_' then word (value fuel) outer
      else fail (.unexpectedCharacter c)

/-- Take the items of a list, the first of which is due, inside of a value that was begun at
`outer`; the last one before was begun at `previous`. -/
def items (outer previous : Nat) (taken : List String) : (fuel : Nat) → Scan Literal
  | 0 => exhaust
  | fuel + 1 => do
    skipBlanks
    let start ← position
    nest outer previous
    match ← value fuel with
    | .string item =>
      skipBlanks
      if ← eat ',' then
        skipBlanks
        if ← eat ']' then return .list (taken ++ [item])
        else items outer start (taken ++ [item]) fuel
      else if ← eat ']' then return .list (taken ++ [item])
      else fail .expectedSeparator
    | other => failAt (.listOfOther other.kind) start

end

/-! ## Whole texts -/

/-- Take a value and blanks behind it, to the end of the text. -/
def whole (text : List Char) : Scan Literal := do
  let v ← value (fuelFor text)
  skipBlanks
  if (← position) = byteLength text then return v else fail .trailingInput

/-- The scan of a text, begun at its start. -/
def scan (text : String) : Outcome Literal × Cursor :=
  whole text.toList text.toList ⟨0, [.reached 0]⟩

end Conformance.Literal.Scanner
