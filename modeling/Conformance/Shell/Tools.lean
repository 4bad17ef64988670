import Conformance.Shell.State
import Conformance.Text.Alphanumeric
import Conformance.Text.Split

/-!
# Small programs

The programs that scripts use: each works on the descriptors of its process and on the files of the
machine and ends with a status.

## Main definitions

* `Shell.Tool`: what a program does with its arguments
* `Shell.tools`: the programs by their names
-/

namespace Conformance.Shell

open Text

/-- What a program does with its arguments: its status and the state behind it. -/
abbrev Tool := List Octets → State → Nat × State

/-! ## Escapes -/

/-- The value of an octal number of at most `digits` digits at the start of a text, as a byte, and
what follows. -/
def octalByte (digits : Nat) (cs : Octets) : Char × Octets :=
  let number := (cs.take digits).takeWhile fun c => '0' ≤ c && c ≤ '7'
  (Char.ofNat (Octets.digitsValue 8 number % 256), cs.drop number.length)

/-- The byte of an escape of a single letter. -/
def letterEscape? : Char → Option Char
  | '\\' => some '\\'
  | 'a' => some '\x07'
  | 'b' => some '\x08'
  | 'e' => some '\x1b'
  | 'f' => some '\x0c'
  | 'n' => some '\n'
  | 'r' => some '\r'
  | 't' => some '\t'
  | 'v' => some '\x0b'
  | _ => none

/-- A byte behind a backslash, and what follows. An escape that means nothing is kept. -/
def readEscape (c : Char) (cs : Octets) : Octets × Octets :=
  if '0' ≤ c && c ≤ '7' then
    let (byte, rest) := octalByte 3 (c :: cs)
    ([byte], rest)
  else match letterEscape? c with
    | some byte => ([byte], cs)
    | none => (['\\', c], cs)

/-- A text with its escapes replaced, where an octal number stands behind a zero, and whether it went
on to its end: `\c` ends it. -/
def unescape : (fuel : Nat) → Octets → Octets × Bool
  | 0, _ => ([], true)
  | _, [] => ([], true)
  | n + 1, '\\' :: c :: cs =>
    if c = 'c' then ([], false)
    else
      let (text, rest) :=
        if c = '0' then
          let (byte, rest) := octalByte 3 cs
          ([byte], rest)
        else readEscape c cs
      let (more, whole) := unescape n rest
      (text ++ more, whole)
  | n + 1, c :: cs =>
    let (more, whole) := unescape n cs
    (c :: more, whole)

/-! ## Printing -/

/-- Words with blanks between them. -/
def spaced (words : List Octets) : Octets :=
  List.intercalate [' '] words

/-- Print the arguments, with their escapes replaced. -/
def echoEscaped : Tool := fun args s =>
  let (newline, args) := match args with
    | ['-', 'n'] :: rest => (false, rest)
    | rest => (true, rest)
  let text := spaced args
  let (text, whole) := unescape (text.length + 1) text
  (0, s.write 1 (if newline && whole then text ++ ['\n'] else text))

/-- Print the arguments as they are. -/
def echoPlain : Tool := fun args s =>
  match args with
  | ['-', 'n'] :: rest => (0, s.write 1 (spaced rest))
  | ['-', 'e'] :: rest => echoEscaped rest s
  | rest => (0, s.write 1 (spaced rest ++ ['\n']))

/-- How a value is to be printed. -/
structure Layout where
  leftAligned : Bool := false
  zeros : Bool := false
  sign : Bool := false
  width : Nat := 0
  precision : Option Nat := none

/-- A value filled up to its width. -/
def Layout.fill (l : Layout) (numeric : Bool) (text : Octets) : Octets :=
  let missing := l.width - text.length
  if l.leftAligned then text ++ List.replicate missing ' '
  else if l.zeros && numeric then
    match text with
    | '-' :: digits => '-' :: List.replicate missing '0' ++ digits
    | digits => List.replicate missing '0' ++ digits
  else List.replicate missing ' ' ++ text

/-- The layout at the start of a format, and what follows. -/
def readLayout (cs : Octets) : Layout × Octets :=
  let flags := cs.takeWhile fun c => "-+ #0".toList.contains c
  let cs := cs.drop flags.length
  let width := cs.takeWhile isAsciiDigit
  let cs := cs.drop width.length
  let (precision, cs) := match cs with
    | '.' :: cs =>
      let digits := cs.takeWhile isAsciiDigit
      (some (Octets.digitsValue 10 digits), cs.drop digits.length)
    | cs => (none, cs)
  ({ leftAligned := flags.contains '-', zeros := flags.contains '0', sign := flags.contains '+'
     width := Octets.digitsValue 10 width, precision }, cs)

/-- The digits of a number to a base. -/
def digitsTo (base n : Nat) : Octets :=
  Nat.toDigits base n

/-- The number that an argument stands for, and whether it is one. -/
def numericArgument (arg : Octets) : Int × Bool :=
  match arg with
  | '\x27' :: c :: _ => (c.toNat, true)
  | '"' :: c :: _ => (c.toNat, true)
  | [] => (0, true)
  | arg =>
    match Octets.integer? arg with
    | some n => (n, true)
    | none => (0, false)

/-- A number printed by a conversion. -/
def numberText (conversion : Char) (l : Layout) (n : Int) : Octets :=
  let digits := match conversion with
    | 'x' => digitsTo 16 n.toNat
    | 'X' => (digitsTo 16 n.toNat).map Char.toUpper
    | 'o' => digitsTo 8 n.toNat
    | _ => digitsTo 10 n.natAbs
  let digits := List.replicate ((l.precision.getD 0) - digits.length) '0' ++ digits
  if n < 0 then '-' :: digits else if l.sign then '+' :: digits else digits

/-- What printing along a format has come to. -/
structure Printed where
  text : Octets := []
  /-- The arguments not used. -/
  args : List Octets := []
  /-- An argument was asked for. -/
  usesArgs : Bool := false
  /-- Arguments that should be numbers and are not. -/
  refused : List Octets := []
  /-- The end of all output was asked for. -/
  stopped : Bool := false

/-- Print along a format once. -/
def printFormat : (fuel : Nat) → Octets → List Octets → Printed
  | 0, _, args => { args }
  | _, [], args => { args }
  | n + 1, c :: cs, args =>
    let before (text : Octets) (p : Printed) : Printed := { p with text := text ++ p.text }
    match c, cs with
    | '\\', 'c' :: _ => { args, stopped := true }
    | '\\', d :: cs =>
      let (text, rest) := readEscape d cs
      before text (printFormat n rest args)
    | '%', '%' :: cs => before ['%'] (printFormat n cs args)
    | '%', cs =>
      let (layout, cs) := readLayout cs
      match cs with
      | [] => { text := ['%'], args }
      | conversion :: cs =>
        let arg := args.headD []
        let use (text : Octets) (ok : Bool) : Printed :=
          let p := printFormat n cs (args.drop 1)
          { p with
            text := text ++ p.text
            usesArgs := true
            refused := if ok then p.refused else arg :: p.refused }
        if conversion = 's' then
          use (layout.fill false
            (match layout.precision with
              | some k => arg.take k
              | none => arg)) true
        else if conversion = 'c' then use (layout.fill false (arg.take 1)) true
        else if conversion = 'b' then
          let (text, whole) := unescape (arg.length + 1) arg
          if whole then use (layout.fill false text) true
          else { text, args := [], stopped := true }
        else if "diuxXo".toList.contains conversion then
          let (number, ok) := numericArgument arg
          use (layout.fill true (numberText conversion layout number)) ok
        else { refused := [conversion :: cs], stopped := true }
    | c, cs => before [c] (printFormat n cs args)

/-- Print along a format as long as there are arguments: the text, and the arguments that were
refused. -/
def printFormats (format : Octets) : (fuel : Nat) → List Octets → Octets × List Octets
  | 0, _ => ([], [])
  | n + 1, args =>
    let p := printFormat (format.length + 1) format args
    if p.stopped || !p.usesArgs || p.args.isEmpty then (p.text, p.refused)
    else
      let (more, refused) := printFormats format n p.args
      (p.text ++ more, p.refused ++ refused)

/-- Print arguments along a format. -/
def printf : Tool := fun args s =>
  match args with
  | [] => (2, s.complain "printf: usage: printf format [arg ...]")
  | format :: args =>
    let (format, args) := match format, args with
      | ['-', '-'], next :: rest => (next, rest)
      | format, args => (format, args)
    let (text, refused) := printFormats format (args.length + 1) args
    let s := refused.foldl (fun s arg =>
      s.complainAt ("printf: ".toList ++ arg ++ ": expected numeric value".toList)) s
    (if refused.isEmpty then 0 else 1, s.write 1 text)

/-! ## Tests -/

/-- Two numbers are in the relation that an option names. -/
def comparison? (option : String) : Option (Int → Int → Bool) :=
  match option with
  | "-eq" => some fun a b => a == b
  | "-ne" => some fun a b => a != b
  | "-lt" => some fun a b => a < b
  | "-le" => some fun a b => a ≤ b
  | "-gt" => some fun a b => a > b
  | "-ge" => some fun a b => a ≥ b
  | _ => none

/-- The truth of a test of one argument; none if there is no such test. -/
def unaryTest (s : State) (option : String) (arg : Octets) : Option Bool :=
  let node := s.node? arg
  match option with
  | "-n" => some !arg.isEmpty
  | "-z" => some arg.isEmpty
  | "-e" => some node.isSome
  | "-d" => some (node == some .directory)
  | "-f" => some (node.any fun n => n != .directory)
  | "-x" => some (node.any fun n => n == .directory || n.isExecutable)
  | "-r" => some node.isSome
  | "-w" => some node.isSome
  | "-s" => some (node.any fun
      | .directory => true
      | .file bytes _ => !bytes.isEmpty)
  | "-h" => some false
  | "-L" => some false
  | "-t" => some false
  | _ => none

/-- The complaint about an argument where an operator should be. -/
def unexpectedOperator (arg : Octets) : Octets :=
  arg ++ ": unexpected operator".toList

/-- The number that an operand stands for, or a complaint. -/
def operandNumber (arg : Octets) : Except Octets Int :=
  match Octets.integer? arg with
  | some n => .ok n
  | none => .error ("Illegal number: ".toList ++ arg)

/-- The truth of a test of two arguments, or a complaint; none if there is no such test. -/
def binaryTest (option : String) (a b : Octets) : Option (Except Octets Bool) :=
  match option with
  | "=" => some (.ok (a == b))
  | "==" => some (.ok (a == b))
  | "!=" => some (.ok (a != b))
  | _ => (comparison? option).map fun relation => do
    let a ← operandNumber a
    let b ← operandNumber b
    return relation a b

/-- The truth of a test, by the number of its arguments, or a complaint. -/
def evaluateTest (s : State) : (fuel : Nat) → List Octets → Except Octets Bool
  | 0, _ => .error []
  | n + 1, args =>
    match args with
    | [] => .ok false
    | [a] => .ok !a.isEmpty
    | [o, a] =>
      if o = ['!'] then .ok a.isEmpty
      else match unaryTest s (String.ofList o) a with
        | some truth => .ok truth
        | none => .error (unexpectedOperator o)
    | [a, o, b] =>
      match binaryTest (String.ofList o) a b with
      | some truth => truth
      | none =>
        if o = ['-', 'a'] then .ok (!a.isEmpty && !b.isEmpty)
        else if o = ['-', 'o'] then .ok (!a.isEmpty || !b.isEmpty)
        else if a = ['!'] then (evaluateTest s n [o, b]).map not
        else .error (unexpectedOperator o)
    | args =>
      let left := args.takeWhile (· ≠ ['-', 'o'])
      if left.length < args.length then do
        let a ← evaluateTest s n left
        let b ← evaluateTest s n (args.drop (left.length + 1))
        return a || b
      else
        let left := args.takeWhile (· ≠ ['-', 'a'])
        if left.length < args.length then do
          let a ← evaluateTest s n left
          let b ← evaluateTest s n (args.drop (left.length + 1))
          return a && b
        else match args with
          | ['!'] :: rest => (evaluateTest s n rest).map not
          | _ => .error (unexpectedOperator (args.headD []))

/-- Test what the arguments say, under a name for complaints. -/
def testAs (name : String) : Tool := fun args s =>
  match evaluateTest s (args.length + 2) args with
  | .ok true => (0, s)
  | .ok false => (1, s)
  | .error complaint => (2, s.complainAt ((name ++ ": ").toList ++ complaint))

/-- Test what the arguments say. -/
def test : Tool :=
  testAs "test"

/-- Test what the arguments up to a closing bracket say. -/
def bracketTest : Tool := fun args s =>
  if args.getLast? = some [']'] then testAs "[" args.dropLast s
  else (2, s.complainAt "[: missing ]".toList)

/-! ## Texts -/

/-- The texts of some files, or of the input if there are none; complaints are made of those that
cannot be read. -/
def inputs (tool : String) : List Octets → State → List (Octets × Octets) × Nat × State
  | [], s => ([], 0, s)
  | path :: paths, s =>
    if path = ['-'] then
      let (text, s) := s.readAll 0
      let (texts, status, s) := inputs tool paths s
      ((path, text) :: texts, status, s)
    else match s.content path with
      | .ok text =>
        let (texts, status, s) := inputs tool paths s
        ((path, text) :: texts, status, s)
      | .error refusal =>
        let s := s.complain (tool ++ ": " ++ Octets.toText path ++ ": " ++ refusal.phrase)
        let (texts, _, s) := inputs tool paths s
        (texts, 1, s)

/-- The texts of some files, or of the input if none is named. -/
def inputsOrStandard (tool : String) (paths : List Octets) (s : State) :
    List (Octets × Octets) × Nat × State :=
  inputs tool (if paths.isEmpty then [['-']] else paths) s

/-- Print files one after the other. -/
def cat : Tool := fun args s =>
  let (texts, status, s) := inputsOrStandard "cat" args s
  (status, s.write 1 (texts.flatMap Prod.snd))

/-- A byte that separates words. -/
def isSpace (c : Char) : Bool :=
  c == ' ' || '\t' ≤ c && c ≤ '\r'

/-- The number of words in a text. -/
def wordCount (text : Octets) : Nat :=
  (text.foldl (fun (n, inside) c =>
    if isSpace c then (n, false) else (if inside then n else n + 1, true)) (0, false)).1

/-- The counts of a text that options ask for. -/
def counts (options : List Char) (text : Octets) : List Nat :=
  (if options.contains 'l' then [text.count '\n'] else []) ++
    (if options.contains 'w' then [wordCount text] else []) ++
    (if options.contains 'm' then [(Octets.toText text).length] else []) ++
    (if options.contains 'c' then [text.length] else [])

/-- The options in front of the arguments, and the others. -/
def splitOptions (args : List Octets) : List Char × List Octets :=
  let options := args.takeWhile fun a => a.head? == some '-' && a.length > 1
  (options.flatMap (List.drop 1), args.drop options.length)

/-- Count lines, words and bytes. -/
def wc : Tool := fun args s =>
  let (options, paths) := splitOptions args
  let options := if options.isEmpty then ['l', 'w', 'c'] else options
  let (texts, status, s) := inputsOrStandard "wc" paths s
  let layout : Layout := { width := if options.length = 1 then 0 else 7 }
  let line (text : Octets) (name : List Octets) : Octets :=
    spaced ((counts options text).map (fun n => layout.fill true (digitsTo 10 n)) ++ name) ++ ['\n']
  let body := texts.flatMap fun (path, text) =>
    line text (if paths.isEmpty then [] else [path])
  let total := if texts.length > 1 then line (texts.flatMap Prod.snd) ["total".toList] else []
  (status, s.write 1 (body ++ total))

/-- The lines of a text, each with its line feed. -/
def fullLines (text : Octets) : List Octets :=
  match (splitAt '\n' text).reverse with
  | [] => []
  | last :: rest =>
    (rest.reverse.map (· ++ ['\n'])) ++ (if last.isEmpty then [] else [last])

/-- A number of lines or bytes that options ask for: in bytes, from the start of the count, and the
number. -/
def readCount : List Octets → Bool × Octets × List Octets
  | ['-', 'n'] :: n :: rest => (false, n, rest)
  | ['-', 'c'] :: n :: rest => (true, n, rest)
  | ('-' :: 'n' :: n) :: rest => (false, n, rest)
  | ('-' :: 'c' :: n) :: rest => (true, n, rest)
  | ('-' :: c :: n) :: rest => if isAsciiDigit c then (false, c :: n, rest)
    else (false, "10".toList, ('-' :: c :: n) :: rest)
  | rest => (false, "10".toList, rest)

/-- Print the start of the input or of files. -/
def head : Tool := fun args s =>
  let (bytes, number, paths) := readCount args
  let n := Octets.digitsValue 10 number
  if bytes && (paths = ["/dev/zero".toList] || (paths.isEmpty && s.own.channel 0 == .zeros)) then
    (0, s.write 1 (List.replicate n '\x00'))
  else
    let (texts, status, s) := inputsOrStandard "head" paths s
    (status, s.write 1 (texts.flatMap fun (_, text) =>
      if bytes then text.take n else ((fullLines text).take n).flatten))

/-- Print the end of the input or of files. -/
def tail : Tool := fun args s =>
  let (bytes, number, paths) := readCount args
  let (texts, status, s) := inputsOrStandard "tail" paths s
  let pick {α : Type} (l : List α) : List α :=
    match number with
    | '+' :: digits => l.drop (Octets.digitsValue 10 digits - 1)
    | digits => l.drop (l.length - Octets.digitsValue 10 digits)
  (status, s.write 1 (texts.flatMap fun (_, text) =>
    if bytes then pick text else (pick (fullLines text)).flatten))

/-- The classes of bytes by their names. -/
def classMembers (name : String) : Octets :=
  let all := (List.range 128).map Char.ofNat
  match name with
  | "alpha" => all.filter isAsciiLetter
  | "digit" => all.filter isAsciiDigit
  | "alnum" => all.filter fun c => isAsciiLetter c || isAsciiDigit c
  | "upper" => all.filter Char.isUpper
  | "lower" => all.filter Char.isLower
  | "space" => all.filter isSpace
  | _ => []

/-- The bytes that a set of `tr` stands for, an element for every unit of `fuel`. -/
def readSet : (fuel : Nat) → Octets → Octets
  | 0, _ => []
  | _, [] => []
  | n + 1, cs =>
    match cs with
    | '[' :: ':' :: rest =>
      let name := rest.takeWhile isAsciiLetter
      classMembers (String.ofList name) ++ readSet n (rest.drop (name.length + 2))
    | '\\' :: c :: rest =>
      let (byte, rest) := readEscape c rest
      (match byte with
        | ['\\', c] => [c]
        | byte => byte) ++ readSet n rest
    | a :: '-' :: b :: rest =>
      (List.range (b.toNat + 1 - a.toNat)).map (fun k => Char.ofNat (a.toNat + k)) ++
        readSet n rest
    | c :: rest => c :: readSet n rest
    | [] => []

/-- A text in which runs of one of some bytes are shortened to one. -/
def squeeze (set : Char → Bool) : Octets → Octets
  | a :: b :: rest => if a = b && set a then squeeze set (b :: rest) else a :: squeeze set (b :: rest)
  | rest => rest

/-- Replace or delete bytes of the input. -/
def tr : Tool := fun args s =>
  let (options, sets) := splitOptions args
  let set1 := readSet ((sets.headD []).length + 1) (sets.headD [])
  let set2 := readSet ((sets.getD 1 []).length + 1) (sets.getD 1 [])
  let complement := options.contains 'c' || options.contains 'C'
  let member (c : Char) := set1.contains c != complement
  let (text, s) := s.readAll 0
  let translate (c : Char) : Char :=
    if member c then
      match set2.getLast? with
      | none => c
      | some last => if complement then last else set2.getD (set1.idxOf c) last
    else c
  let text :=
    if options.contains 'd' then text.filter fun c => !member c
    else text.map translate
  let text :=
    if options.contains 's' then
      squeeze (if set2.isEmpty then member else fun c => set2.contains c) text
    else text
  (0, s.write 1 text)

/-- Print the numbers of a range. -/
def seq : Tool := fun args s =>
  let numbers := args.filterMap Octets.integer?
  let (first, step, last) := match numbers with
    | [last] => ((1 : Int), (1 : Int), last)
    | [first, last] => (first, 1, last)
    | [first, step, last] => (first, step, last)
    | _ => (1, 1, 0)
  let count := if step = 0 then 0 else ((last - first) / step + 1).toNat
  (0, s.write 1 ((List.range count).flatMap fun (k : Nat) => Octets.decimal (first + step * (k : Int)) ++ ['\n']))

/-- Print the last component of a path, without an ending. -/
def basename : Tool := fun args s =>
  let path := args.headD []
  let name := ((Path.components path).getLast?).getD (if path.isEmpty then [] else ['/'])
  let ending := args.getD 1 []
  let name :=
    if ending.isSuffixOf name && ending.length < name.length then
      name.take (name.length - ending.length)
    else name
  (0, s.write 1 (name ++ ['\n']))

/-- Print a path without its last component. -/
def dirname : Tool := fun args s =>
  let trimmed := ((args.headD []).reverse.dropWhile (· = '/')).reverse
  let parent := trimmed.reverse.dropWhile (· ≠ '/')
  let parent := (parent.dropWhile (· = '/')).reverse
  let absolute := (args.headD []).head? == some '/'
  (0, s.write 1
    ((if parent.isEmpty then (if absolute then ['/'] else ['.']) else parent) ++ ['\n']))

/-! ## Files -/

/-- The place for a copy: the target, or a file of the same name inside it. -/
def copyPlace (s : State) (source target : Octets) : Except Refusal Place :=
  let inside := match s.node? target with
    | some .directory =>
      Path.join (Octets.toText target) ((Path.fileName? (Octets.toText source)).getD "")
    | _ => Octets.toText target
  s.machine.target s.own.directory inside

/-- Copy one file, with its permissions. -/
def copyFile (tool : String) (s : State) (source target : Octets) : Nat × State :=
  match s.machine.resolve s.own.directory (Octets.toText source) with
  | .error refusal =>
    (1, s.complain (tool ++ ": cannot stat '" ++ Octets.toText source ++ "': " ++ refusal.phrase))
  | .ok (_, .directory) =>
    (1, s.complain (tool ++ ": -r not specified; omitting directory '" ++ Octets.toText source ++
      "'"))
  | .ok (_, .file bytes mode) =>
    match copyPlace s source target with
    | .error refusal =>
      (1, s.complain (tool ++ ": cannot create regular file '" ++ Octets.toText target ++ "': " ++
        refusal.phrase))
    | .ok place =>
      let files := s.machine.files
      let files := match files.find? place with
        | some _ => files.write place bytes
        | none => files.put place (.file bytes mode)
      (0, { s with machine := { s.machine with files } })

/-- Copy files. -/
def cp : Tool := fun args s =>
  let (_, paths) := splitOptions args
  match paths.reverse with
  | target :: source :: rest =>
    (source :: rest).reverse.foldl (fun (status, s) source =>
      let (status', s) := copyFile "cp" s source target
      (max status status', s)) (0, s)
  | _ => (1, s.complain "cp: missing file operand")

/-- Remove what is at a path. -/
def removePath (s : State) (path : Octets) : State :=
  match s.machine.resolve s.own.directory (Octets.toText path) with
  | .ok (place, _) =>
    { s with machine := { s.machine with files := s.machine.files.removeTree place } }
  | .error _ => s

/-- Move files. -/
def mv : Tool := fun args s =>
  let (_, paths) := splitOptions args
  match paths with
  | [source, target] =>
    let (status, s) := copyFile "mv" s source target
    (status, if status = 0 then removePath s source else s)
  | _ => (1, s.complain "mv: missing file operand")

/-- Remove files. -/
def rm : Tool := fun args s =>
  let (options, paths) := splitOptions args
  paths.foldl (fun (status, s) path =>
    match s.node? path with
    | none =>
      if options.contains 'f' then (status, s)
      else
        (1, s.complain ("rm: cannot remove '" ++ Octets.toText path ++
          "': No such file or directory"))
    | some .directory =>
      if options.contains 'r' || options.contains 'R' then (status, removePath s path)
      else
        (1, s.complain ("rm: cannot remove '" ++ Octets.toText path ++ "': Is a directory"))
    | some _ => (status, removePath s path)) (0, s)

/-- Make directories. -/
def mkdir : Tool := fun args s =>
  let (options, paths) := splitOptions args
  paths.foldl (fun (status, s) path =>
    let place := Place.ofPath s.own.directory (Octets.toText path)
    let files := if options.contains 'p' then s.machine.files.withParents place else s.machine.files
    match s.machine.node? place, s.machine.node? place.dropLast with
    | some _, _ =>
      if options.contains 'p' then (status, s)
      else
        (1, s.complain ("mkdir: cannot create directory '" ++ Octets.toText path ++
          "': File exists"))
    | none, parent =>
      if parent.isSome || options.contains 'p' then
        (status, { s with machine := { s.machine with files := files.put place .directory } })
      else
        (1, s.complain ("mkdir: cannot create directory '" ++ Octets.toText path ++
          "': No such file or directory"))) (0, s)

/-- Make empty files where there are none. -/
def touch : Tool := fun args s =>
  args.foldl (fun (status, s) path =>
    if (s.node? path).isSome then (status, s)
    else match s.machine.target s.own.directory (Octets.toText path) with
      | .ok place => (status, { s with machine := s.machine.store place [] })
      | .error refusal =>
        (1, s.complain ("touch: cannot touch '" ++ Octets.toText path ++ "': " ++ refusal.phrase)))
    (0, s)

/-- The permission bits of a mode that is added to or taken from others, by its letters. -/
def modeBits (who what : List Char) : Nat :=
  let bits := (if what.contains 'r' then 4 else 0) + (if what.contains 'w' then 2 else 0) +
    (if what.contains 'x' then 1 else 0)
  let everyone := who.isEmpty || who.contains 'a'
  (if everyone || who.contains 'u' then bits * 64 else 0) +
    (if everyone || who.contains 'g' then bits * 8 else 0) +
    (if everyone || who.contains 'o' then bits else 0)

/-- The permission bits that a mode makes of others. -/
def changeMode (mode : Octets) (old : Nat) : Nat :=
  if mode.all isAsciiDigit then Octets.digitsValue 8 mode
  else
    let who := mode.takeWhile fun c => "ugoa".toList.contains c
    match mode.drop who.length with
    | '+' :: what => old ||| modeBits who what
    | '-' :: what => old - (old &&& modeBits who what)
    | '=' :: what => modeBits who what
    | _ => old

/-- Change the permissions of files. -/
def chmod : Tool := fun args s =>
  match args with
  | [] => (1, s.complain "chmod: missing operand")
  | mode :: paths =>
    paths.foldl (fun (status, s) path =>
      match s.machine.resolve s.own.directory (Octets.toText path) with
      | .ok (place, .file bytes old) =>
        let files := s.machine.files.put place (.file bytes (changeMode mode old))
        (status, { s with machine := { s.machine with files } })
      | .ok (_, .directory) => (status, s)
      | .error refusal =>
        (1, s.complain ("chmod: cannot access '" ++ Octets.toText path ++ "': " ++
          refusal.phrase))) (0, s)

/-- Print the names in a directory. -/
def ls : Tool := fun args s =>
  let (_, paths) := splitOptions args
  let path := Octets.toText (paths.headD ['.'])
  match s.machine.resolve s.own.directory path with
  | .error refusal =>
    (2, s.complain ("ls: cannot access '" ++ path ++ "': " ++ refusal.phrase))
  | .ok (_, .file ..) => (0, s.write 1 (Octets.ofText path ++ ['\n']))
  | .ok (place, .directory) =>
    let names := (s.machine.files.children place).map Prod.fst
    let names := (names.filter fun n => n.toList.head? ≠ some '.').mergeSort fun a b => a ≤ b
    (0, s.write 1 (names.flatMap fun n => Octets.ofText n ++ ['\n']))

/-- Print the values of variables of the environment. -/
def printenv : Tool := fun args s =>
  let exported := s.own.bindings.filter Variable.exported
  match args with
  | [] => (0, s.write 1 (exported.flatMap fun v => v.name ++ '=' :: v.value ++ ['\n']))
  | names =>
    let found := names.map fun name => exported.find? fun v => v.name = name
    (if found.all Option.isSome then 0 else 1,
      s.write 1 (found.flatMap fun
        | some v => v.value ++ ['\n']
        | none => []))

/-- Print the current directory. -/
def pwd : Tool := fun _ s =>
  let text := s.own.directory.flatMap fun name => '/' :: Octets.ofText name
  (0, s.write 1 ((if text.isEmpty then ['/'] else text) ++ ['\n']))

/-- The programs by their names, apart from those that start others. -/
def tools : List (String × Tool) :=
  [("[", bracketTest), ("basename", basename), ("cat", cat), ("chmod", chmod), ("cp", cp),
   ("dirname", dirname), ("echo", echoPlain), ("false", fun _ s => (1, s)), ("head", head),
   ("ls", ls), ("mkdir", mkdir), ("mv", mv), ("printenv", printenv), ("printf", printf),
   ("pwd", pwd), ("rm", rm), ("seq", seq), ("sleep", fun _ s => (0, s)), ("tail", tail),
   ("test", test), ("touch", touch), ("tr", tr), ("true", fun _ s => (0, s)), ("wc", wc)]

end Conformance.Shell
