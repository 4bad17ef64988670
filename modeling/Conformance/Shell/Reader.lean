import Conformance.Shell.Command
import Conformance.Text.Alphanumeric
import Conformance.Text.Split

/-!
# Reading scripts

The commands that a script consists of, read from left to right. Every reader returns what it has
read and what is left, or the mistake because of which the text is no script; of its `fuel` one unit
is spent for every step into a part, so that a multiple of the length of the text is enough.

## Main definitions

* `Shell.Mistake`: what is wrong with a script
* `Shell.readPieces`: the pieces of a word, of quoted text or of a document in place
* `Shell.readCommand`, `Shell.readList`: one command, and commands up to the end of a compound
* `Shell.readScript`: the commands of a script, line by line
-/

namespace Conformance.Shell

open Text

/-! ## Between the words -/

/-- A byte that ends a word unless it is quoted. -/
def isMeta (c : Char) : Bool :=
  " \t\n;&|<>()".toList.contains c

/-- The byte begins a name. -/
def beginsName (c : Char) : Bool :=
  isAsciiLetter c || c == '_'

/-- The byte is part of a name. -/
def isNameChar (c : Char) : Bool :=
  beginsName c || isAsciiDigit c

/-- The name at the start of a text, or nothing. -/
def nameAt (cs : Octets) : Octets :=
  match cs with
  | [] => []
  | c :: _ => if beginsName c then cs.takeWhile isNameChar else []

/-- What follows blanks, joined lines and a comment. -/
def skipBlanks : Octets → Octets
  | ' ' :: cs => skipBlanks cs
  | '\t' :: cs => skipBlanks cs
  | '\\' :: '\n' :: cs => skipBlanks cs
  | '#' :: cs => cs.dropWhile (· ≠ '\n')
  | cs => cs

/-- What follows blanks, comments and line feeds; with `inComment`, behind the rest of a comment. -/
def skipLines (inComment : Bool) : Octets → Octets
  | [] => []
  | '\n' :: cs => skipLines false cs
  | '\\' :: '\n' :: cs => skipLines false cs
  | c :: cs =>
    if inComment then skipLines true cs
    else if c = ' ' ∨ c = '\t' then skipLines false cs
    else if c = '#' then skipLines true cs
    else c :: cs

/-- What follows a reserved word, if the text begins with it. -/
def keyword? (word : String) (cs : Octets) : Option Octets :=
  let cs := skipBlanks cs
  let rest := cs.drop word.length
  if word.toList.isPrefixOf cs && rest.head?.all isMeta then some rest else none

/-- The reserved words. -/
def reservedWords : List String :=
  ["!", "case", "do", "done", "elif", "else", "esac", "fi", "for", "if", "in", "then", "until",
   "while", "\x7b", "\x7d"]

/-- The reserved words that end a list of commands. -/
def closingWords : List String :=
  ["then", "else", "elif", "fi", "do", "done", "esac", "\x7d"]

/-- The signs between words, the longer ones first. -/
def signs : List String :=
  [";;", ";", "&&", "&", "||", "|", "(", ")"]

/-- A list of commands ends here. -/
def atListEnd (cs : Octets) : Bool :=
  match cs with
  | [] => true
  | ')' :: _ => true
  | ';' :: ';' :: _ => true
  | cs => closingWords.any fun word => (keyword? word cs).isSome

/-- The number of the line that begins `cs`, in a script of `total` line feeds. -/
def lineOf (total : Nat) (cs : Octets) : Nat :=
  total - cs.count '\n' + 1

/-- The descriptor and the sign of a redirection at the start of a text, and what follows. -/
def redirection? (cs : Octets) : Option (Nat × Redirection × Octets) :=
  let digits := cs.takeWhile isAsciiDigit
  let descriptor (standard : Nat) :=
    if digits.isEmpty then standard else Octets.digitsValue 10 digits
  match cs.drop digits.length with
  | '>' :: '>' :: rest => some (descriptor 1, .append, rest)
  | '>' :: '&' :: rest => some (descriptor 1, .duplicate, rest)
  | '>' :: '|' :: rest => some (descriptor 1, .write, rest)
  | '>' :: rest => some (descriptor 1, .write, rest)
  | '<' :: '<' :: rest => some (descriptor 0, .here, rest)
  | '<' :: '&' :: rest => some (descriptor 0, .duplicate, rest)
  | '<' :: rest => some (descriptor 0, .read, rest)
  | _ => none

/-! ## Mistakes -/

/-- What is wrong with a script, and the line where it shows. -/
structure Mistake where
  line : Nat
  text : String
deriving DecidableEq, Repr

/-- What is read from a script, or a mistake. -/
abbrev Reading := Except Mistake

/-- A word between double quotes. -/
def inQuotes (word : String) : String :=
  "\"" ++ word ++ "\""

/-- What a mistake calls the sign or the word at the start of a text. Where commands may stand,
reserved words are told from others. -/
def tokenName (commands : Bool) (cs : Octets) : String :=
  match cs with
  | [] => "end of file"
  | '\n' :: _ => "newline"
  | cs =>
    if (redirection? cs).isSome then "redirection"
    else
      let reserved :=
        if commands then reservedWords.find? fun word => (keyword? word cs).isSome else none
      match (signs.find? fun sign => sign.toList.isPrefixOf cs).or reserved with
      | some word => inQuotes word
      | none => "word"

/-- The mistake that there is something else than wanted. A line feed shows on the next line. -/
def unexpected (total : Nat) (commands : Bool) (cs : Octets) (wanted : Option String) : Mistake :=
  let cs := skipBlanks cs
  { line := lineOf total (if cs.head? = some '\n' then cs.drop 1 else cs)
    text := tokenName commands cs ++ " unexpected" ++
      match wanted with
      | none => ""
      | some word => " (expecting " ++ word ++ ")" }

/-- What follows a reserved word, which has to come next. -/
def expectWord (total : Nat) (word : String) (cs : Octets) : Reading Octets :=
  match keyword? word cs with
  | some rest => .ok rest
  | none => .error (unexpected total true cs (some (inQuotes word)))

/-- What follows a closing parenthesis, which has to come next. -/
def expectClose (total : Nat) (commands : Bool) (cs : Octets) : Reading Octets :=
  match skipBlanks cs with
  | ')' :: rest => .ok rest
  | cs => .error (unexpected total commands cs (some (inQuotes ")")))

/-! ## Documents in place -/

/-- The text of a document in place up to its delimiter, and the lines behind it. A document that
is not ended goes on to the end of the text. -/
def documentText (delimiter : Octets) (withoutTabs : Bool) :
    List Octets → Octets × List Octets
  | [] => ([], [])
  | line :: rest =>
    let line := if withoutTabs then line.dropWhile (· = '\t') else line
    if line = delimiter then ([], rest)
    else if rest.isEmpty then (line, [])
    else
      let (body, rest) := documentText delimiter withoutTabs rest
      (line ++ '\n' :: body, rest)

/-- A document that begins behind the current line, and the text without it. -/
def takeDocument (delimiter : Octets) (withoutTabs : Bool) (cs : Octets) : Octets × Octets :=
  let line := cs.takeWhile (· ≠ '\n')
  match cs.drop line.length with
  | [] => ([], line)
  | _ :: rest =>
    let (body, rest) := documentText delimiter withoutTabs (splitAt '\n' rest)
    (body, line ++ '\n' :: List.intercalate ['\n'] rest)

/-- The text of a word that stands for itself. -/
def literalText (word : List Piece) : Octets :=
  word.flatMap fun
    | .text s _ => s
    | _ => []

/-- Some part of the word is quoted. -/
def isQuotedWord (word : List Piece) : Bool :=
  word.any fun
    | .text _ quoted => quoted
    | _ => false

/-! ## Words -/

/-- What pieces are read from. -/
inductive Setting where
  | word
  | double
  | braces (quoted : Bool)
  | document
  /-- Inside an arithmetic expression, below a number of parentheses. -/
  | arithmetic (depth : Nat)

namespace Setting

/-- Everything in this setting is quoted. -/
def isQuoted : Setting → Bool
  | word => false
  | double => true
  | braces quoted => quoted
  | document => true
  | arithmetic _ => true

/-- What follows the end of the setting, if it ends here. -/
def close? : Setting → Octets → Option Octets
  | word, [] => some []
  | word, c :: cs => if isMeta c then some (c :: cs) else none
  | double, '"' :: cs => some cs
  | braces _, '\x7d' :: cs => some cs
  | document, [] => some []
  | arithmetic 0, ')' :: ')' :: cs => some cs
  | _, _ => none

/-- What is missing where the text ends within a setting. -/
def unfinished : Setting → String
  | braces false => "Missing '\x7d'"
  | arithmetic _ => "Missing '))'"
  | _ => "Unterminated quoted string"

/-- The setting behind a byte. -/
def after (c : Char) : Setting → Setting
  | arithmetic depth =>
    if c = '(' then arithmetic (depth + 1)
    else if c = ')' then arithmetic (depth - 1)
    else arithmetic depth
  | s => s

/-- A backslash makes the byte literal. -/
def escapes (c : Char) : Setting → Bool
  | word => true
  | braces false => true
  | double => "$\x60\"\\".toList.contains c
  | braces true => "$\x60\"\\\x7d".toList.contains c
  | document => "$\x60\\".toList.contains c
  | arithmetic _ => "$\x60\\".toList.contains c

/-- Single quotes have their meaning. -/
def hasSingleQuotes (s : Setting) : Bool :=
  !s.isQuoted

/-- Double quotes have their meaning. -/
def hasDoubleQuotes : Setting → Bool
  | word => true
  | braces _ => true
  | _ => false

end Setting

/-- Pieces with one more before them; literal text of one kind is joined. -/
def joinPiece (piece : Piece) (pieces : List Piece) : List Piece :=
  match piece, pieces with
  | .text s q, .text t r :: rest =>
    if q = r then .text (s ++ t) q :: rest else piece :: pieces
  | _, _ => piece :: pieces

/-- The name of a parameter at the start of a text: a name, a number or a single sign. -/
def parameterAt (cs : Octets) : Octets :=
  match cs with
  | [] => []
  | c :: _ =>
    if beginsName c then nameAt cs
    else if isAsciiDigit c then cs.takeWhile isAsciiDigit
    else if "@*#?$!-".toList.contains c then [c]
    else []

/-- The kind of a substitution by its sign. -/
def substitute? : Char → Option Substitute
  | '-' => some .default
  | '=' => some .assign
  | '?' => some .complain
  | '+' => some .alternative
  | _ => none

/-- The text up to an unescaped grave accent, with its escapes removed, and what follows. -/
def takeBackquoted : Octets → Option (Octets × Octets)
  | [] => none
  | '\x60' :: cs => some ([], cs)
  | '\\' :: c :: cs =>
    (takeBackquoted cs).map fun (s, rest) =>
      (if "$\x60\\".toList.contains c then c :: s else '\\' :: c :: s, rest)
  | c :: cs => (takeBackquoted cs).map fun (s, rest) => (c :: s, rest)

/-- The name that an assignment at the start of a text sets, and the text of its value. -/
def assignment? (cs : Octets) : Option (Octets × Octets) :=
  match nameAt cs with
  | [] => none
  | name =>
    match cs.drop name.length with
    | '=' :: rest => some (name, rest)
    | _ => none

/-- The commands that no function can stand for; assignments in front of them stay. -/
def specialNames : List String :=
  [":", ".", "break", "continue", "eval", "exec", "exit", "export", "readonly", "return", "set",
   "shift", "times", "trap", "unset"]

/-- The name of a function that a word gives. -/
def functionName? (word : List Piece) : Option Octets :=
  match word with
  | [.text s false] =>
    if nameAt s = s && !specialNames.contains (String.ofList s) then some s else none
  | _ => none

/-- The parts of a simple command. -/
structure Items where
  assignments : List (Octets × List Piece) := []
  words : List (List Piece) := []
  redirects : List Redirect := []

/-- There is nothing at all. -/
def Items.isEmpty (i : Items) : Bool :=
  i.assignments.isEmpty && i.words.isEmpty && i.redirects.isEmpty

mutual

/-- The pieces up to the end of a setting. -/
def readPieces (total : Nat) : (fuel : Nat) → Setting → Octets → Reading (List Piece × Octets)
  | 0, _, cs => .error (unexpected total true cs none)
  | n + 1, setting, cs =>
    match setting.close? cs, cs with
    | some rest, _ => .ok ([], rest)
    | none, [] => .error ⟨lineOf total [], setting.unfinished⟩
    | none, c :: cs => do
      let (pieces, cs) ← readPiece total n setting c cs
      let (more, cs) ← readPieces total n (setting.after c) cs
      .ok (pieces.foldr joinPiece more, cs)

/-- The pieces that begin with a byte; none for a joined line. -/
def readPiece (total : Nat) : (fuel : Nat) → Setting → Char → Octets → Reading (List Piece × Octets)
  | 0, _, _, cs => .error (unexpected total true cs none)
  | n + 1, setting, c, cs =>
    let quoted := setting.isQuoted
    if c = '\\' then
      match cs with
      | [] => .ok ([.text [c] true], [])
      | '\n' :: cs => .ok ([], cs)
      | d :: rest =>
        if setting.escapes d then .ok ([.text [d] true], rest)
        else .ok ([.text [c] quoted], cs)
    else if c = '\x27' && setting.hasSingleQuotes then
      let s := cs.takeWhile (· ≠ '\x27')
      match cs.drop s.length with
      | [] => .error ⟨lineOf total [], Setting.double.unfinished⟩
      | _ :: rest => .ok ([.text s true], rest)
    else if c = '"' && setting.hasDoubleQuotes then do
      let (pieces, rest) ← readPieces total n .double cs
      .ok (if pieces.isEmpty then [.text [] true] else pieces, rest)
    else if c = '$' then do
      let (piece, rest) ← readParameter total n quoted cs
      .ok ([piece], rest)
    else if c = '\x60' then
      match takeBackquoted cs with
      | none => .error ⟨lineOf total [], "EOF in backquote substitution"⟩
      | some (script, rest) => do
        let (command, _) ← readList (script.count '\n') n true script
        .ok ([.output command quoted], rest)
    else .ok ([.text [c] quoted], cs)

/-- The piece behind a dollar sign. -/
def readParameter (total : Nat) : (fuel : Nat) → (quoted : Bool) → Octets → Reading (Piece × Octets)
  | 0, _, cs => .error (unexpected total true cs none)
  | n + 1, quoted, cs =>
    match cs with
    | '(' :: '(' :: rest => do
      let (expression, rest) ← readPieces total n (.arithmetic 0) rest
      .ok (.arithmetic expression quoted, rest)
    | '(' :: rest => do
      let (command, rest) ← readList total n true rest
      let rest ← expectClose total true rest
      .ok (.output command quoted, rest)
    | '\x7b' :: rest => readBraced total n quoted rest
    | cs =>
      match parameterAt cs with
      | [] => .ok (.text ['$'] quoted, cs)
      | c :: name =>
        if isAsciiDigit c then .ok (.parameter [c] quoted, cs.drop 1)
        else .ok (.parameter (c :: name) quoted, cs.drop (name.length + 1))

/-- A parameter behind an opening brace. -/
def readBraced (total : Nat) : (fuel : Nat) → (quoted : Bool) → Octets → Reading (Piece × Octets)
  | 0, _, cs => .error (unexpected total true cs none)
  | n + 1, quoted, cs =>
    let withWord (rest : Octets) (f : List Piece → Piece) : Reading (Piece × Octets) := do
      let (word, rest) ← readPieces total n (.braces quoted) rest
      .ok (f word, rest)
    let lengthOf := match cs with
      | '#' :: rest =>
        let name := parameterAt rest
        match name, rest.drop name.length with
        | _ :: _, '\x7d' :: rest => some (name, rest)
        | _, _ => none
      | _ => none
    match lengthOf with
    | some (name, rest) => .ok (.length name quoted, rest)
    | none =>
      let name := parameterAt cs
      let rest := cs.drop name.length
      let unknown := withWord rest fun _ => .unknown
      if name.isEmpty then unknown
      else
        match rest with
        | '\x7d' :: rest => .ok (.parameter name quoted, rest)
        | '%' :: '%' :: rest => withWord rest fun w => .stripped name true true w quoted
        | '%' :: rest => withWord rest fun w => .stripped name true false w quoted
        | '#' :: '#' :: rest => withWord rest fun w => .stripped name false true w quoted
        | '#' :: rest => withWord rest fun w => .stripped name false false w quoted
        | ':' :: c :: rest =>
          match substitute? c with
          | none => withWord rest fun _ => .unknown
          | some kind => withWord rest fun w => .substitute name kind true w quoted
        | c :: rest =>
          match substitute? c with
          | none => unknown
          | some kind => withWord rest fun w => .substitute name kind false w quoted
        | [] => unknown

/-- The word behind the sign of a redirection. -/
def readTarget (total : Nat) : (fuel : Nat) → Octets → Reading (List Piece × Octets)
  | 0, cs => .error (unexpected total true cs none)
  | n + 1, cs =>
    let cs := skipBlanks cs
    if cs.head?.all isMeta then .error (unexpected total false cs none)
    else readPieces total n .word cs

/-- A redirection, behind its sign. -/
def readRedirect (total : Nat) : (fuel : Nat) → (descriptor : Nat) → Redirection → Octets →
    Reading (Redirect × Octets)
  | 0, _, _, cs => .error (unexpected total true cs none)
  | n + 1, descriptor, .here, rest => do
    let (withoutTabs, rest) := match rest with
      | '-' :: rest => (true, rest)
      | rest => (false, rest)
    let start := skipBlanks rest
    let (word, rest) ← readTarget total n start
    let delimiter :=
      if isQuotedWord word then literalText word else start.take (start.length - rest.length)
    let (body, rest) := takeDocument delimiter withoutTabs rest
    if isQuotedWord word then .ok (.mk descriptor .here [.text body true], rest)
    else
      let (pieces, _) ← readPieces total n .document body
      .ok (.mk descriptor .here pieces, rest)
  | n + 1, descriptor, kind, rest => do
    let (word, rest) ← readTarget total n rest
    .ok (.mk descriptor kind word, rest)

/-- The redirections behind a compound command. -/
def readRedirects (total : Nat) : (fuel : Nat) → Octets → Reading (List Redirect × Octets)
  | 0, cs => .error (unexpected total true cs none)
  | n + 1, cs =>
    let cs := skipBlanks cs
    match redirection? cs with
    | none => .ok ([], cs)
    | some (descriptor, kind, rest) => do
      let (r, cs) ← readRedirect total n descriptor kind rest
      let (rs, cs) ← readRedirects total n cs
      .ok (r :: rs, cs)

/-- The parts of a simple command; `leading` as long as there was no word. -/
def readItems (total : Nat) : (fuel : Nat) → (leading : Bool) → Octets → Reading (Items × Octets)
  | 0, _, cs => .error (unexpected total true cs none)
  | n + 1, leading, cs =>
    let cs := skipBlanks cs
    match redirection? cs with
    | some (descriptor, kind, rest) => do
      let (r, cs) ← readRedirect total n descriptor kind rest
      let (items, cs) ← readItems total n leading cs
      .ok ({ items with redirects := r :: items.redirects }, cs)
    | none =>
      if cs.head?.all isMeta then .ok ({}, cs)
      else
        match (if leading then assignment? cs else none) with
        | some (name, value) => do
          let (word, cs) ← readPieces total n .word value
          let (items, cs) ← readItems total n true cs
          .ok ({ items with assignments := (name, word) :: items.assignments }, cs)
        | none => do
          let (word, cs) ← readPieces total n .word cs
          let (items, cs) ← readItems total n false cs
          .ok ({ items with words := word :: items.words }, cs)

/-- A simple command, or the definition of a function. -/
def readSimple (total : Nat) : (fuel : Nat) → Octets → Reading (Command × Octets)
  | 0, cs => .error (unexpected total true cs none)
  | n + 1, cs => do
    let (items, rest) ← readItems total n true cs
    match items, rest with
    | ⟨[], [word], []⟩, '(' :: rest =>
      let rest ← expectClose total false rest
      match functionName? word with
      | none => .error ⟨lineOf total rest, "Bad function name"⟩
      | some name =>
        let (body, rest) ← readCommand total n (skipLines false rest)
        .ok (.definition name body, rest)
    | items, rest =>
      .ok (.simple (lineOf total cs) items.assignments items.words items.redirects, rest)

/-- The words up to the end of a line. -/
def readWords (total : Nat) : (fuel : Nat) → Octets → Reading (List (List Piece) × Octets)
  | 0, cs => .error (unexpected total true cs none)
  | n + 1, cs =>
    let cs := skipBlanks cs
    if cs.head?.all isMeta then .ok ([], cs)
    else do
      let (word, cs) ← readPieces total n .word cs
      let (words, cs) ← readWords total n cs
      .ok (word :: words, cs)

/-- The body of a loop between its reserved words. -/
def readBody (total : Nat) : (fuel : Nat) → Octets → Reading (Command × Octets)
  | 0, cs => .error (unexpected total true cs none)
  | n + 1, cs => do
    let cs ← expectWord total "do" (skipLines false cs)
    let (body, cs) ← readList total n false cs
    let cs ← expectWord total "done" cs
    .ok (body, cs)

/-- A loop behind its first word. -/
def readLoop (total : Nat) : (fuel : Nat) → (negated : Bool) → Octets → Reading (Command × Octets)
  | 0, _, cs => .error (unexpected total true cs none)
  | n + 1, negated, cs => do
    let (condition, cs) ← readList total n false cs
    let (body, cs) ← readBody total n cs
    .ok (.loop negated condition body, cs)

/-- A conditional behind its first word. -/
def readBranch (total : Nat) : (fuel : Nat) → Octets → Reading (Command × Octets)
  | 0, cs => .error (unexpected total true cs none)
  | n + 1, cs => do
    let (condition, cs) ← readList total n false cs
    let cs ← expectWord total "then" cs
    let (yes, cs) ← readList total n false cs
    match keyword? "elif" cs, keyword? "else" cs with
    | some cs, _ =>
      let (no, cs) ← readBranch total n cs
      .ok (.branch condition yes no, cs)
    | none, some cs =>
      let (no, cs) ← readList total n false cs
      let cs ← expectWord total "fi" cs
      .ok (.branch condition yes no, cs)
    | none, none =>
      let cs ← expectWord total "fi" cs
      .ok (.branch condition yes .nothing, cs)

/-- A loop over words behind its first word. -/
def readEach (total : Nat) : (fuel : Nat) → Octets → Reading (Command × Octets)
  | 0, cs => .error (unexpected total true cs none)
  | n + 1, cs =>
    let cs := skipBlanks cs
    let name := nameAt cs
    let cs := cs.drop name.length
    if name.isEmpty || !cs.head?.all isMeta then
      .error ⟨lineOf total cs, "Bad for loop variable"⟩
    else
      match keyword? "in" (skipLines false cs) with
      | some cs => do
        let (words, cs) ← readWords total n cs
        match cs with
        | ';' :: ';' :: _ => .error (unexpected total true cs none)
        | ';' :: rest | '\n' :: rest =>
          let (body, cs) ← readBody total n rest
          .ok (.each name (some words) body, cs)
        | cs => .error (unexpected total true cs none)
      | none => do
        let cs := match skipLines false cs with
          | ';' :: cs => cs
          | cs => cs
        let (body, cs) ← readBody total n cs
        .ok (.each name none body, cs)

/-- The patterns of a case, up to the closing parenthesis. -/
def readPatterns (total : Nat) : (fuel : Nat) → Octets → Reading (List (List Piece) × Octets)
  | 0, cs => .error (unexpected total true cs none)
  | n + 1, cs => do
    let (pattern, cs) ← readPieces total n .word (skipBlanks cs)
    match pattern, skipBlanks cs with
    | [], cs =>
      let sign := signs.find? fun sign => sign.toList.isPrefixOf cs
      .error (unexpected total false (cs.drop (sign.getD "").length) (some (inQuotes ")")))
    | pattern, '|' :: cs =>
      let (patterns, cs) ← readPatterns total n cs
      .ok (pattern :: patterns, cs)
    | pattern, ')' :: cs => .ok ([pattern], cs)
    | _, cs => .error (unexpected total false cs (some (inQuotes ")")))

/-- The cases of a choice, up to its last word. -/
def readCases (total : Nat) : (fuel : Nat) → Octets →
    Reading (List (List (List Piece) × Command) × Octets)
  | 0, cs => .error (unexpected total true cs none)
  | n + 1, cs =>
    let cs := skipLines false cs
    match keyword? "esac" cs with
    | some cs => .ok ([], cs)
    | none => do
      let cs := match cs with
        | '(' :: cs => cs
        | cs => cs
      let (patterns, cs) ← readPatterns total n cs
      let (body, cs) ← readList total n true cs
      match skipLines false cs with
      | ';' :: ';' :: cs =>
        let (cases, cs) ← readCases total n cs
        .ok ((patterns, body) :: cases, cs)
      | cs =>
        match keyword? "esac" cs with
        | some cs => .ok ([(patterns, body)], cs)
        | none => .error (unexpected total true cs (some (inQuotes ";;")))

/-- A choice behind its first word. -/
def readChoice (total : Nat) : (fuel : Nat) → Octets → Reading (Command × Octets)
  | 0, cs => .error (unexpected total true cs none)
  | n + 1, cs =>
    let cs := skipBlanks cs
    if cs.head?.all isMeta then .error (unexpected total false cs (some "word"))
    else do
      let (subject, cs) ← readPieces total n .word cs
      let cs ← expectWord total "in" (skipLines false cs)
      let (cases, cs) ← readCases total n cs
      .ok (.choice subject cases, cs)

/-- A command without redirections behind it, in front of which there are no blanks. -/
def readPlain (total : Nat) : (fuel : Nat) → Octets → Reading (Command × Octets)
  | 0, cs => .error (unexpected total true cs none)
  | n + 1, cs =>
    match cs with
    | '(' :: rest => do
      let (body, rest) ← readList total n false rest
      let rest ← expectClose total true rest
      .ok (.subshell body, rest)
    | cs =>
      match reservedWords.findSome? fun word => (keyword? word cs).map (word, ·) with
      | some ("\x7b", rest) => do
        let (body, rest) ← readList total n false rest
        let rest ← expectWord total "\x7d" rest
        .ok (body, rest)
      | some ("if", rest) => readBranch total n rest
      | some ("while", rest) => readLoop total n false rest
      | some ("until", rest) => readLoop total n true rest
      | some ("for", rest) => readEach total n rest
      | some ("case", rest) => readChoice total n rest
      | some _ => .error (unexpected total true cs none)
      | none =>
        if (redirection? cs).isNone && cs.head?.all isMeta then
          .error (unexpected total true cs none)
        else readSimple total n cs

/-- A command with the redirections behind it. -/
def readCommand (total : Nat) : (fuel : Nat) → Octets → Reading (Command × Octets)
  | 0, cs => .error (unexpected total true cs none)
  | n + 1, cs => do
    let (command, cs) ← readPlain total n (skipBlanks cs)
    let (redirects, cs) ← readRedirects total n cs
    .ok (if redirects.isEmpty then command else .redirected command redirects, cs)

/-- Commands that each read what the one before writes. -/
def readPipe (total : Nat) : (fuel : Nat) → Octets → Reading (Command × Octets)
  | 0, cs => .error (unexpected total true cs none)
  | n + 1, cs => do
    let (first, cs) ← readCommand total n cs
    match skipBlanks cs with
    | '|' :: '|' :: rest => .ok (first, '|' :: '|' :: rest)
    | '|' :: rest =>
      let (second, rest) ← readPipe total n (skipLines false rest)
      .ok (.pipe first second, rest)
    | cs => .ok (first, cs)

/-- A pipe, possibly negated. -/
def readPipeline (total : Nat) : (fuel : Nat) → Octets → Reading (Command × Octets)
  | 0, cs => .error (unexpected total true cs none)
  | n + 1, cs =>
    match keyword? "!" cs with
    | some rest => do
      let (command, rest) ← readPipe total n rest
      .ok (.negation command, rest)
    | none => readPipe total n cs

/-- The commands that follow another one by its status. -/
def readConditionals (total : Nat) : (fuel : Nat) → Command → Octets → Reading (Command × Octets)
  | 0, _, cs => .error (unexpected total true cs none)
  | n + 1, first, cs =>
    match skipBlanks cs with
    | '&' :: '&' :: rest => do
      let (second, rest) ← readPipeline total n (skipLines false rest)
      readConditionals total n (.both first second) rest
    | '|' :: '|' :: rest => do
      let (second, rest) ← readPipeline total n (skipLines false rest)
      readConditionals total n (.either first second) rest
    | cs => .ok (first, cs)

/-- A pipeline with the commands that follow by its status. -/
def readAndOr (total : Nat) : (fuel : Nat) → Octets → Reading (Command × Octets)
  | 0, cs => .error (unexpected total true cs none)
  | n + 1, cs => do
    let (first, cs) ← readPipeline total n cs
    readConditionals total n first cs

/-- Commands up to the end of a compound; there may be none if `optional`, or if the text ends. -/
def readList (total : Nat) : (fuel : Nat) → (optional : Bool) → Octets → Reading (Command × Octets)
  | 0, _, cs => .error (unexpected total true cs none)
  | n + 1, optional, cs =>
    let cs := skipLines false cs
    if cs.isEmpty || (optional && atListEnd cs) then .ok (.nothing, cs)
    else do
      let (first, cs) ← readAndOr total n cs
      match skipBlanks cs with
      | ';' :: ';' :: rest => .ok (first, ';' :: ';' :: rest)
      | ';' :: rest | '&' :: rest | '\n' :: rest =>
        let (more, rest) ← readList total n true rest
        .ok (.sequence first more, rest)
      | cs => .ok (first, cs)

end

/-! ## Scripts -/

/-- The commands up to the end of a line. -/
def readLine (total : Nat) : (fuel : Nat) → Octets → Reading (Command × Octets)
  | 0, cs => .error (unexpected total true cs none)
  | n + 1, cs => do
    let (first, cs) ← readAndOr total n cs
    let following (rest : Octets) : Reading (Command × Octets) :=
      match skipBlanks rest with
      | [] => .ok (first, [])
      | '\n' :: rest => .ok (first, rest)
      | rest => do
        let (more, rest) ← readLine total n rest
        .ok (.sequence first more, rest)
    match skipBlanks cs with
    | [] => .ok (first, [])
    | '\n' :: rest => .ok (first, rest)
    | ';' :: ';' :: _ => .error (unexpected total true cs none)
    | ';' :: rest => following rest
    | '&' :: rest => following rest
    | cs => .error (unexpected total true cs none)

/-- The commands of the lines of a script up to the first that cannot be read, and what is wrong
with that line if there is one. -/
def readScriptLines (total : Nat) : (fuel : Nat) → Octets → List Command × Option Mistake
  | 0, cs => ([], some (unexpected total true cs none))
  | n + 1, cs =>
    match skipLines false cs with
    | [] => ([], none)
    | cs =>
      match readLine total n cs with
      | .error mistake => ([], some mistake)
      | .ok (command, rest) =>
        let (commands, mistake) := readScriptLines total n rest
        (command :: commands, mistake)

/-- The commands of a script up to the first line that cannot be read, and what is wrong with that
line if there is one. A step never needs more than a constant number of units of fuel per byte. -/
def readScript (cs : Octets) : List Command × Option Mistake :=
  readScriptLines (cs.count '\n') (16 * cs.length + 64) cs

end Conformance.Shell
