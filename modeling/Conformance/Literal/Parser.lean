import Conformance.Literal

/-!
# Reading literals

The grammar of literals is closed: `True`, `true`, `False`, `false`, decimal integers, quoted
strings, bracketed lists of strings, and patterns written `re.compile('…')` or `/…/`. A reader
consumes a prefix of its input and returns the rest; an error keeps the part of the input that was
left where it arose, from which its byte offset is computed at the end.

## Main definitions

* `Literal.Error`: why a text is no literal, and where
* `Literal.parse`: the literal written in a text
-/

namespace Conformance.Literal

open Text

/-- Why a text is no literal. -/
inductive Cause where
  | expectedLiteral
  | trailingInput
  | unexpectedCharacter (c : Char)
  | unsupportedExpression (word : List Char)
  | expectedOpening
  | expectedClosing
  | patternFromOther (found : Kind)
  | unterminatedPattern
  | invalidPattern (reason : Pattern.Error)
  | expectedDigits
  | integerTooLarge
  | integerTooSmall
  | expectedString
  | unterminatedString
  | listOfOther (found : Kind)
  | expectedSeparator
deriving DecidableEq

/-- The text of a cause. -/
def Cause.message : Cause → String
  | expectedLiteral => "expected a literal"
  | trailingInput => "unexpected trailing input"
  | unexpectedCharacter c => "unexpected character '" ++ String.singleton c ++ "'"
  | unsupportedExpression word => "unsupported expression `" ++ String.ofList word ++ "`"
  | expectedOpening => "expected '(' after re.compile"
  | expectedClosing => "expected ')' to close re.compile"
  | patternFromOther found => "re.compile expects a string, found " ++ found.name
  | unterminatedPattern => "unterminated pattern literal"
  | invalidPattern reason => "invalid pattern: " ++ reason.message
  | expectedDigits => "expected digits"
  | integerTooLarge => "invalid integer: number too large to fit in target type"
  | integerTooSmall => "invalid integer: number too small to fit in target type"
  | expectedString => "expected a string"
  | unterminatedString => "unterminated string"
  | listOfOther found => "list elements must be strings, found " ++ found.name
  | expectedSeparator => "expected ',' or ']'"

/-- A cause, and how many bytes of the text stand before the place where it arose. -/
structure Error where
  cause : Cause
  offset : Nat
deriving DecidableEq

/-- The text of an error. -/
def Error.message (e : Error) : String :=
  e.cause.message ++ " at offset " ++ toString e.offset

/-- A cause, and what was left of the input where it arose. -/
structure Stop where
  cause : Cause
  rest : List Char
deriving DecidableEq

/-- A reader: a value and the rest of the input, or the place where it stopped. -/
abbrev Reading (α : Type) := Except Stop (α × List Char)

/-! ## Strings and patterns -/

/-- What a backslash and a character stand for in a string; `raw` strings keep both. -/
def unescape (raw : Bool) (c : Char) : List Char :=
  if raw then ['\\', c]
  else match c with
    | 'n' => ['\n']
    | 't' => ['\t']
    | 'r' => ['\r']
    | '0' => ['\x00']
    | '\\' => ['\\']
    | '\'' => ['\'']
    | '"' => ['"']
    | c => ['\\', c]

/-- The rest of a string behind its opening quote. -/
def readQuoted (raw : Bool) (quote : Char) : List Char → Reading (List Char)
  | [] => .error ⟨.unterminatedString, []⟩
  | c :: cs =>
    if c = quote then .ok ([], cs)
    else if c = '\\' then
      match cs with
      | [] => .error ⟨.unterminatedString, []⟩
      | e :: cs =>
        match readQuoted raw quote cs with
        | .ok (s, rest) => .ok (unescape raw e ++ s, rest)
        | .error e => .error e
    else
      match readQuoted raw quote cs with
      | .ok (s, rest) => .ok (c :: s, rest)
      | .error e => .error e

/-- The rest of a pattern behind its opening slash. A slash behind a backslash stands for itself,
any other character behind a backslash keeps it. -/
def readSlashed : List Char → Reading (List Char)
  | [] => .error ⟨.unterminatedPattern, []⟩
  | '/' :: cs => .ok ([], cs)
  | ['\\'] => .error ⟨.unterminatedPattern, []⟩
  | '\\' :: e :: cs =>
    match readSlashed cs with
    | .ok (s, rest) => .ok ((if e = '/' then ['/'] else ['\\', e]) ++ s, rest)
    | .error e => .error e
  | c :: cs =>
    match readSlashed cs with
    | .ok (s, rest) => .ok (c :: s, rest)
    | .error e => .error e

/-- The pattern with the given source; `start` is the input from where its text began. -/
def compile (source : List Char) (start : List Char) (rest : List Char) : Reading Literal :=
  match Pattern.compile (String.ofList source) with
  | .ok p => .ok (.pattern p, rest)
  | .error reason => .error ⟨.invalidPattern reason, start⟩

/-! ## Integers -/

/-- The digits at the start of a text and the rest. An underscore may separate two digits. -/
def readDigits : List Char → List Char × List Char
  | [] => ([], [])
  | c :: cs =>
    if isAsciiDigit c then
      let (ds, rest) := readDigits cs
      (c :: ds, rest)
    else
      match c, cs with
      | '_', d :: rest =>
        if isAsciiDigit d then
          let (ds, rest) := readDigits rest
          (d :: ds, rest)
        else ([], c :: cs)
      | _, _ => ([], c :: cs)

/-- The value of decimal digits. -/
def digitsValue (ds : List Char) : Nat :=
  ds.foldl (fun n d => n * 10 + (d.toNat - '0'.toNat)) 0

/-- An integer with a sign, within 64 bits; `start` is the input from its sign on. -/
def integerOf (negative : Bool) (ds : List Char) (start rest : List Char) : Reading Literal :=
  let n : Int := if negative then -digitsValue ds else digitsValue ds
  if n > Int64.maxValue.toInt then .error ⟨.integerTooLarge, start⟩
  else if n < Int64.minValue.toInt then .error ⟨.integerTooSmall, start⟩
  else .ok (.integer (Int64.ofInt n), rest)

/-- An integer: an optional sign, then digits. -/
def readInteger (cs : List Char) : Reading Literal :=
  let (negative, body) := match cs with
    | '-' :: body => (true, body)
    | '+' :: body => (false, body)
    | body => (false, body)
  match body with
  | d :: _ =>
    if isAsciiDigit d then
      let (ds, rest) := readDigits body
      integerOf negative ds cs rest
    else .error ⟨.expectedDigits, body⟩
  | [] => .error ⟨.expectedDigits, []⟩

/-! ## Words -/

/-- A character that continues a word. -/
def continuesWord (c : Char) : Bool :=
  isAlphanumeric c || c == '_' || c == '.'

/-- A string literal from its quoted characters. -/
def asString (r : Reading (List Char)) : Reading Literal :=
  match r with
  | .ok (s, rest) => .ok (.string (String.ofList s), rest)
  | .error e => .error e

/-- A character that delimits a string. -/
def isQuote (c : Char) : Bool :=
  c == '\'' || c == '"'

/-- A character that begins an integer. -/
def beginsInteger (c : Char) : Bool :=
  c == '-' || c == '+' || isAsciiDigit c

/-! ## Values -/

mutual

/-- A value, with blanks before it. Of `fuel` one unit is spent per nested value or list item. -/
def readValue : (fuel : Nat) → List Char → Reading Literal
  | 0, cs => .error ⟨.expectedLiteral, cs⟩
  | fuel + 1, cs =>
    match trimStart cs with
    | [] => .error ⟨.expectedLiteral, []⟩
    | '[' :: rest =>
      match trimStart rest with
      | ']' :: rest => .ok (.list [], rest)
      | rest => readItems fuel [] rest
    | '/' :: rest =>
      match readSlashed rest with
      | .ok (source, rest') => compile source ('/' :: rest) rest'
      | .error e => .error e
    | c :: rest =>
      if isQuote c then asString (readQuoted false c rest)
      else if beginsInteger c then readInteger (c :: rest)
      else if isAlphabetic c || c == '_' then
        match c, rest with
        | 'r', q :: body =>
          if isQuote q then asString (readQuoted true q body) else readWord fuel (c :: rest)
        | _, _ => readWord fuel (c :: rest)
      else .error ⟨.unexpectedCharacter c, c :: rest⟩

/-- A word: a boolean, or the name of a pattern with its source in parentheses. -/
def readWord : (fuel : Nat) → List Char → Reading Literal
  | 0, cs => .error ⟨.expectedLiteral, cs⟩
  | fuel + 1, cs =>
    let word := cs.takeWhile continuesWord
    let rest := cs.dropWhile continuesWord
    if word = "True".toList ∨ word = "true".toList then .ok (.boolean true, rest)
    else if word = "False".toList ∨ word = "false".toList then .ok (.boolean false, rest)
    else if word = "re.compile".toList then
      match trimStart rest with
      | '(' :: inner =>
        let start := trimStart inner
        match readValue fuel start with
        | .error e => .error e
        | .ok (.string source, rest) =>
          match trimStart rest with
          | ')' :: rest => compile source.toList start rest
          | rest => .error ⟨.expectedClosing, rest⟩
        | .ok (other, _) => .error ⟨.patternFromOther other.kind, start⟩
      | rest => .error ⟨.expectedOpening, rest⟩
    else .error ⟨.unsupportedExpression word, cs⟩

/-- The items of a list, the first of which is due; `items` are those read before. -/
def readItems : (fuel : Nat) → (items : List String) → List Char → Reading Literal
  | 0, _, cs => .error ⟨.expectedLiteral, cs⟩
  | fuel + 1, items, cs =>
    let start := trimStart cs
    match readValue fuel start with
    | .error e => .error e
    | .ok (.string item, rest) =>
      match trimStart rest with
      | ',' :: rest =>
        match trimStart rest with
        | ']' :: rest => .ok (.list (items ++ [item]), rest)
        | rest => readItems fuel (items ++ [item]) rest
      | ']' :: rest => .ok (.list (items ++ [item]), rest)
      | rest => .error ⟨.expectedSeparator, rest⟩
    | .ok (other, _) => .error ⟨.listOfOther other.kind, start⟩

end

/-! ## Whole texts -/

/-- The number of bytes that a text takes. -/
def byteLength (cs : List Char) : Nat :=
  cs.foldr (fun c n => c.utf8Size + n) 0

/-- Enough fuel for every nesting that a text of this length can hold: a value needs one unit for
itself and one for its word or list, and each level of either takes a character. -/
def fuelFor (cs : List Char) : Nat :=
  3 * cs.length + 3

/-- A value and nothing behind it but blanks. -/
def readAll (cs : List Char) : Except Stop Literal :=
  match readValue (fuelFor cs) cs with
  | .error e => .error e
  | .ok (v, rest) =>
    match trimStart rest with
    | [] => .ok v
    | rest => .error ⟨.trailingInput, rest⟩

/-- The literal written in a text. -/
def parseChars (cs : List Char) : Except Error Literal :=
  match readAll cs with
  | .ok v => .ok v
  | .error stop => .error ⟨stop.cause, byteLength cs - byteLength stop.rest⟩

/-- The literal written in a text, with blanks allowed around it. -/
def parse (text : String) : Except Error Literal :=
  parseChars text.toList

end Conformance.Literal
