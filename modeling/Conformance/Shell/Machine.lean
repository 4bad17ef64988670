import Conformance.FileTree
import Conformance.Shell.Octets

/-!
# Machines

A machine for scripts: its files, the texts that its processes read and what they have written.
Beside the files of the tree it has the programs of the directories `/bin` and `/usr/bin`, which are
known by name.

## Main definitions

* `Refusal`: why the system refuses a request
* `Machine`: the files, sources and sinks
* `Machine.resolve`: what a path leads to
* `Machine.load`, `Machine.search`: the program that a path or a name stands for
-/

namespace Conformance

/-- Why the system refuses a request. -/
inductive Refusal where
  | missing
  | badFormat
  | denied
  | notDirectory
  | isDirectory
  | nameTooLong
  | loop
deriving DecidableEq, Repr

namespace Refusal

/-- The number of a refusal. -/
def number : Refusal → Nat
  | missing => 2
  | badFormat => 8
  | denied => 13
  | notDirectory => 20
  | isDirectory => 21
  | nameTooLong => 36
  | loop => 40

/-- The wording of a refusal. -/
def phrase : Refusal → String
  | missing => "No such file or directory"
  | badFormat => "Exec format error"
  | denied => "Permission denied"
  | notDirectory => "Not a directory"
  | isDirectory => "Is a directory"
  | nameTooLong => "File name too long"
  | loop => "Too many levels of symbolic links"

/-- The wording of a refusal with its number. -/
def message (r : Refusal) : String :=
  r.phrase ++ " (os error " ++ toString r.number ++ ")"

end Refusal

/-- The files of a machine, what is left of each text that is read, and what was written to each
sink, the newest part first. -/
structure Machine where
  files : FileTree
  sources : List Octets := []
  sinks : List (List Octets) := []

namespace Machine

/-! ## Texts -/

/-- The machine with one more text to read, and the number of that text. -/
def addSource (m : Machine) (text : Octets) : Nat × Machine :=
  (m.sources.length, { m with sources := m.sources ++ [text] })

/-- The machine with one more empty sink, and its number. -/
def addSink (m : Machine) : Nat × Machine :=
  (m.sinks.length, { m with sinks := m.sinks ++ [[]] })

/-- Write to a sink. -/
def pour (m : Machine) (sink : Nat) (text : Octets) : Machine :=
  { m with sinks := m.sinks.modify sink (text :: ·) }

/-- All that was written to a sink. -/
def collected (m : Machine) (sink : Nat) : Octets :=
  (m.sinks.getD sink []).reverse.flatten

/-! ## Files -/

/-- The directories that are there beside those of the tree. -/
def systemDirectories : List Place :=
  [["bin"], ["dev"], ["tmp"], ["usr"], ["usr", "bin"]]

/-- The files that stand for devices. -/
def devices : List Place :=
  [["dev", "null"], ["dev", "zero"], ["dev", "stdin"], ["dev", "stdout"], ["dev", "stderr"]]

/-- The programs that are there beside the files of the tree. -/
def toolNames : List String :=
  ["[", "basename", "cat", "chmod", "cp", "dash", "dirname", "echo", "env", "false", "head", "ls",
   "mkdir", "mv", "printenv", "printf", "pwd", "rm", "seq", "sh", "sleep", "tail", "test",
   "touch", "tr", "true", "wc"]

/-- The name of the program at a place. -/
def toolAt? : Place → Option String
  | ["bin", name] => if toolNames.contains name then some name else none
  | ["usr", "bin", name] => if toolNames.contains name then some name else none
  | _ => none

/-- What is at a place. -/
def node? (m : Machine) (p : Place) : Option Node :=
  match m.files.find? p with
  | some node => some node
  | none =>
    if systemDirectories.contains p then some .directory
    else if devices.contains p then some (.file [] 0o666)
    else (toolAt? p).map fun _ => .file [] 0o755

/-- The place behind a component of a path. -/
def enter (m : Machine) (p : Place) (component : String) : Except Refusal Place :=
  match m.node? p with
  | none => .error .missing
  | some (.file ..) => .error .notDirectory
  | some .directory =>
    if component.utf8ByteSize > 255 then .error .nameTooLong
    else .ok (if component = ".." then p.dropLast else p ++ [component])

/-- The place that a path leads to from a directory, where all but the last component must be there
already. -/
def walk (m : Machine) (directory : Place) (path : Path) : Except Refusal Place :=
  if path = "" then .error .missing
  else
    let start := if path.toList.head? = some '/' then [] else directory
    (Path.components path.toList).foldlM (fun p c => m.enter p (String.ofList c)) start

/-- The place that a path leads to, with what is there. -/
def resolve (m : Machine) (directory : Place) (path : Path) : Except Refusal (Place × Node) :=
  match m.walk directory path with
  | .error refusal => .error refusal
  | .ok p =>
    match m.node? p with
    | none => .error .missing
    | some node =>
      if path.toList.getLast? = some '/' && node != .directory then .error .notDirectory
      else .ok (p, node)

/-- The content of the file at a path. -/
def content (m : Machine) (directory : Place) (path : Path) : Except Refusal Octets :=
  match m.resolve directory path with
  | .error refusal => .error refusal
  | .ok (_, .directory) => .error .isDirectory
  | .ok (_, .file bytes _) => .ok (Octets.ofBytes bytes)

/-- The place for a file at a path, which may be new. -/
def target (m : Machine) (directory : Place) (path : Path) : Except Refusal Place :=
  match m.walk directory path with
  | .error refusal => .error refusal
  | .ok p =>
    if m.node? p = some .directory then .error .isDirectory
    else if m.node? p.dropLast = some .directory then .ok p
    else .error (if (m.node? p.dropLast).isSome then .notDirectory else .missing)

/-- Write a file. -/
def store (m : Machine) (p : Place) (text : Octets) : Machine :=
  if devices.contains p then m
  else { m with files := m.files.write p (Octets.toBytes text) }

/-! ## Programs -/

/-- A program: one of the known ones, with arguments before those that are given to it. -/
structure Image where
  tool : String
  args : List Octets := []

/-- The interpreter that the first line of a script names, with an argument for it if there is
one. -/
def interpreterLine? : Octets → Option (Octets × List Octets)
  | '#' :: '!' :: rest =>
    let isSpace (c : Char) := c == ' ' || c == '\t'
    let line := ((rest.takeWhile (· ≠ '\n')).dropWhile isSpace).reverse.dropWhile isSpace |>.reverse
    let interpreter := line.takeWhile fun c => !isSpace c
    let argument := (line.drop interpreter.length).dropWhile isSpace
    if interpreter.isEmpty then none
    else some (interpreter, if argument.isEmpty then [] else [argument])
  | _ => none

/-- The program at a path, through at most `depth` interpreters. -/
def load (m : Machine) (directory : Place) : (depth : Nat) → Path → Except Refusal Image
  | 0, _ => .error .loop
  | depth + 1, path =>
    match m.resolve directory path with
    | .error refusal => .error refusal
    | .ok (_, .directory) => .error .denied
    | .ok (p, .file bytes mode) =>
      if mode &&& 0o111 = 0 then .error .denied
      else match toolAt? p with
        | some tool => .ok ⟨tool, []⟩
        | none =>
          match interpreterLine? (Octets.ofBytes bytes) with
          | none => .error .badFormat
          | some (interpreter, argument) =>
            match m.load directory depth (Octets.toText interpreter) with
            | .error refusal => .error refusal
            | .ok image =>
              .ok { image with args := image.args ++ argument ++ [Octets.ofText path] }

/-- How many interpreters may stand one behind the other. -/
def interpreterDepth : Nat := 6

/-- The program of a name in a list of directories. A directory in which it may not be run is passed
over, but remembered. -/
def searchIn (m : Machine) (directory : Place) (name : String) (denied : Bool) :
    List String → Except Refusal Image
  | [] => .error (if denied then .denied else .missing)
  | place :: places =>
    match m.load directory interpreterDepth (Path.join place name) with
    | .error .missing => m.searchIn directory name denied places
    | .error .notDirectory => m.searchIn directory name denied places
    | .error .denied => m.searchIn directory name true places
    | result => result

/-- The directories in which programs are looked for, unless something else is said. -/
def standardPath : String := "/usr/local/bin:/usr/bin:/bin"

/-- The program that a name or a path stands for. Only a name without a slash is looked for in the
directories of `places`. -/
def search (m : Machine) (directory : Place) (places : String) (program : String) :
    Except Refusal Image :=
  if program = "" then .error .missing
  else if program.toList.contains '/' then m.load directory interpreterDepth program
  else
    m.searchIn directory program false ((Text.splitAt ':' places.toList).map String.ofList)

end Machine

end Conformance
