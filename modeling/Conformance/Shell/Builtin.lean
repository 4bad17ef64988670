import Conformance.Process
import Conformance.Shell.Reader
import Conformance.Shell.Tools
import Conformance.Shell.Word

/-!
# Builtin commands

The commands that a script carries out itself.

## Main definitions

* `Shell.Flow`: how a script goes on behind a command
* `Shell.builtin?`: the builtin command of a name
* `Shell.State.openChannel`: the effect of a redirection
-/

namespace Conformance.Shell

/-- How a script goes on behind a command. -/
inductive Flow where
  | next
  /-- The process ends with the status of its last command. -/
  | exit
  /-- The process is ended by a signal. -/
  | killed (signal : Nat)
  /-- So many loops are left. -/
  | leave (loops : Nat)
  /-- All but the outermost of so many loops are left, and that goes on with its next round. -/
  | again (loops : Nat)
  /-- The current function ends. -/
  | back
deriving DecidableEq, Repr

/-- What a builtin command does with its arguments. -/
abbrev Builtin := List Octets → State → Flow × State

/-- Go on with the number that an argument of a command stands for; if there is none, a complaint
ends the process. -/
def withNumber (command : String) (arg : Octets) (s : State) (f : Nat → Flow × State) :
    Flow × State :=
  match Octets.integer? arg with
  | some (.ofNat n) => f n
  | _ => (.exit, (s.complainAt ((command ++ ": Illegal number: ").toList ++ arg)).withStatus 2)

/-- End the process. -/
def exitBuiltin : Builtin
  | [], s => (.exit, s)
  | arg :: _, s => withNumber "exit" arg s fun n => (.exit, s.withStatus (n % 256))

/-- End the current function. -/
def returnBuiltin : Builtin
  | [], s => (.back, s)
  | arg :: _, s => withNumber "return" arg s fun n => (.back, s.withStatus (n % 256))

/-- Leave loops. -/
def breakBuiltin : Builtin := fun args s =>
  withNumber "break" (args.headD ['1']) s fun n =>
    (if s.own.loops = 0 then .next else .leave (min n s.own.loops), s.withStatus 0)

/-- Go on with the next round of a loop. -/
def continueBuiltin : Builtin := fun args s =>
  withNumber "continue" (args.headD ['1']) s fun n =>
    (if s.own.loops = 0 then .next else .again (min n s.own.loops), s.withStatus 0)

/-- Drop arguments from the front. -/
def shiftBuiltin : Builtin := fun args s =>
  withNumber "shift" (args.headD ['1']) s fun n =>
    if n > s.own.args.length then
      (.exit, (s.complainAt "shift: can't shift that many".toList).withStatus 2)
    else (.next, { s with own := { s.own with args := s.own.args.drop n, status := 0 } })

/-- Choose the options of the letters. -/
def setOptions (value : Bool) (letters : Octets) (p : Process) : Process :=
  { p with options := letters.foldl (fun o letter => o.set value letter) p.options }

/-- Choose options and set arguments. -/
def setArgs : List Octets → Process → Process
  | [], p => p
  | ['-', '-'] :: rest, p => { p with args := rest }
  | ['-', 'o'] :: name :: rest, p =>
    setArgs rest (setOptions true (Options.letter? (String.ofList name)).toList p)
  | ['+', 'o'] :: name :: rest, p =>
    setArgs rest (setOptions false (Options.letter? (String.ofList name)).toList p)
  | ('-' :: c :: letters) :: rest, p => setArgs rest (setOptions true (c :: letters) p)
  | ('+' :: c :: letters) :: rest, p => setArgs rest (setOptions false (c :: letters) p)
  | args, p => { p with args }

/-- Choose options and set arguments of the process. -/
def setBuiltin : Builtin := fun args s =>
  (.next, { s with own := { setArgs args s.own with status := 0 } })

/-- Forget variables and functions. -/
def unsetBuiltin : Builtin := fun args s =>
  let names := args.filter fun a => a.head? ≠ some '-'
  let own := names.foldl Process.unset s.own
  let functions := own.functions.filter fun f => !names.contains f.1
  (.next, { s with own := { own with functions, status := 0 } })

/-- Assign the variables of arguments with an equals sign, and pass all of them on if so wanted. -/
def declareBuiltin (exporting : Bool) : Builtin := fun args s =>
  let own := args.foldl (fun p arg =>
    let (name, p) := match assignment? arg with
      | some (name, value) => (name, p.assign name value)
      | none => (arg, p)
    if exporting then p.exportVariable name else p) s.own
  (.next, { s with own := { own with status := 0 } })

/-- Let variables belong to the current function, with values if there are any. -/
def localBuiltin : Builtin := fun args s =>
  let (_, s) := declareBuiltin false (args.filter fun a => (assignment? a).isSome) s
  let names := args.map fun a => a.takeWhile isNameChar
  (.next, { s with own := { s.own with locals := s.own.locals ++ names } })

/-- Change the current directory. -/
def cdBuiltin : Builtin := fun args s =>
  let path := args.headD ((s.own.value? "HOME".toList).getD ['/'])
  match s.machine.resolve s.own.directory (Octets.toText path) with
  | .ok (place, .directory) =>
    (.next, { s with own := { s.own with directory := place, status := 0 } })
  | _ => (.next, (s.complainAt ("cd: can't cd to ".toList ++ path)).withStatus 2)

/-- The values of variables for the fields of a line: the last one takes all that is left. -/
def lineValues (separators : Octets) : List Octets → Octets → List (Octets × Octets)
  | [], _ => []
  | [name], line =>
    let isSeparator (c : Char) := separators.contains c
    [(name, ((line.dropWhile isSeparator).reverse.dropWhile isSeparator).reverse)]
  | name :: names, line =>
    let line := line.dropWhile fun c => separators.contains c
    let field := line.takeWhile fun c => !separators.contains c
    (name, field) :: lineValues separators names (line.drop (field.length + 1))

/-- Read a line into variables. -/
def readBuiltin : Builtin := fun args s =>
  let names := args.filter fun a => a.head? ≠ some '-'
  let (line, whole, s) := s.readLine 0
  let own := (lineValues s.separators names line).foldl (fun p (name, value) =>
    p.assign name value) s.own
  (.next, { s with own := { own with status := if whole then 0 else 1 } })

/-- The signal of a name or a number. There is one whose name a shell does not know. -/
def signal? (name : Octets) : Option Nat :=
  match Octets.integer? name with
  | some (.ofNat n) => if n ≤ 64 then some n else none
  | some _ => none
  | none =>
    let name := String.ofList (name.map Char.toUpper)
    if name = "EXIT" then some 0
    else
      (signalNames.find? fun e =>
        e.2 != "SIGSTKFLT" && (e.2 == name || e.2 == "SIG" ++ name)).map Prod.fst

/-- Signals that do not end a process that does nothing about them. -/
def harmlessSignals : List Nat := [0, 17, 18, 19, 20, 21, 22, 23, 28]

/-- Send a signal. There is no process but the current one to send it to. -/
def sendSignal (signal : Nat) (ids : List Octets) (s : State) : Flow × State :=
  if ids.contains (Octets.decimal s.own.id) then
    if harmlessSignals.contains signal then (.next, s.withStatus 0) else (.killed signal, s)
  else (.next, (s.complainAt "kill: No such process".toList).withStatus 1)

/-- Send a signal by its name. -/
def killBuiltin : Builtin := fun args s =>
  let (name, ids) := match args with
    | ['-', 's'] :: name :: ids => (name, ids)
    | ['-', '-'] :: ids => ("TERM".toList, ids)
    | ('-' :: name) :: ids => (name, ids)
    | ids => ("TERM".toList, ids)
  match signal? name with
  | some signal => sendSignal signal (ids.filter (· ≠ ['-', '-'])) s
  | none =>
    (.next, (s.complainAt ("kill: invalid signal number or name: ".toList ++ name)).withStatus 2)

/-- Set or forget the scripts to be run on signals. -/
def trapBuiltin : Builtin := fun args s =>
  let args := if args.head? = some ['-', '-'] then args.drop 1 else args
  match args with
  | [] => (.next, s.withStatus 0)
  | action :: names =>
    let signals := names.filterMap signal?
    let kept := s.own.traps.filter fun t => !signals.contains t.1
    let added := if action = ['-'] then [] else signals.map fun n => (n, action)
    (.next, { s with own := { s.own with traps := added ++ kept, status := 0 } })

/-- A program that is carried out without another process. -/
def ofTool (tool : Tool) : Builtin := fun args s =>
  let (status, s) := tool args s
  (.next, s.withStatus status)

/-- Do nothing. -/
def idle : Builtin := fun _ s => (.next, s.withStatus 0)

/-- The builtin command of a name, apart from those that run others. -/
def builtin? (name : String) : Option Builtin :=
  match name with
  | ":" => some idle
  | "[" => some (ofTool bracketTest)
  | "break" => some breakBuiltin
  | "cd" => some cdBuiltin
  | "continue" => some continueBuiltin
  | "echo" => some (ofTool echoEscaped)
  | "exit" => some exitBuiltin
  | "export" => some (declareBuiltin true)
  | "false" => some fun _ s => (.next, s.withStatus 1)
  | "kill" => some killBuiltin
  | "local" => some localBuiltin
  | "printf" => some (ofTool printf)
  | "pwd" => some (ofTool pwd)
  | "read" => some readBuiltin
  | "readonly" => some (declareBuiltin false)
  | "return" => some returnBuiltin
  | "set" => some setBuiltin
  | "shift" => some shiftBuiltin
  | "test" => some (ofTool test)
  | "trap" => some trapBuiltin
  | "true" => some idle
  | "ulimit" => some idle
  | "umask" => some idle
  | "unset" => some unsetBuiltin
  | "wait" => some idle
  | _ => none

/-! ## Redirections -/

/-- Let a descriptor lead to a file that is read. -/
def State.openInput (s : State) (descriptor : Nat) (path : Octets) : Except String State :=
  let connect (s : State) (channel : Channel) : State :=
    { s with own := s.own.connect descriptor channel }
  match String.ofList path with
  | "/dev/null" => .ok (connect s .nowhere)
  | "/dev/zero" => .ok (connect s .zeros)
  | "/dev/stdin" => .ok (connect s (s.own.channel 0))
  | _ =>
    match s.content path with
    | .ok text =>
      let (n, machine) := s.machine.addSource text
      .ok (connect { s with machine } (.source n))
    | .error .isDirectory => .ok (connect s .nowhere)
    | .error .missing => .error ("cannot open " ++ Octets.toText path ++ ": No such file")
    | .error refusal => .error ("cannot open " ++ Octets.toText path ++ ": " ++ refusal.phrase)

/-- Let a descriptor lead to the end of a file, which is emptied before for `fresh`. -/
def State.openOutput (s : State) (descriptor : Nat) (fresh : Bool) (path : Octets) :
    Except String State :=
  let connect (s : State) (channel : Channel) : State :=
    { s with own := s.own.connect descriptor channel }
  match String.ofList path with
  | "/dev/null" => .ok (connect s .nowhere)
  | "/dev/stdout" => .ok (connect s (s.own.channel 1))
  | "/dev/stderr" => .ok (connect s (s.own.channel 2))
  | _ =>
    match s.machine.target s.own.directory (Octets.toText path) with
    | .ok place =>
      let machine :=
        if fresh || (s.machine.files.find? place).isNone then s.machine.store place []
        else s.machine
      .ok (connect { s with machine } (.file place))
    | .error .missing =>
      .error ("cannot create " ++ Octets.toText path ++ ": Directory nonexistent")
    | .error refusal =>
      .error ("cannot create " ++ Octets.toText path ++ ": " ++ refusal.phrase)

/-- The effect of a redirection with an expanded target, or a complaint. -/
def State.openChannel (s : State) (descriptor : Nat) (kind : Redirection) (target : Octets) :
    Except String State :=
  match kind with
  | .read => s.openInput descriptor target
  | .write => s.openOutput descriptor true target
  | .append => s.openOutput descriptor false target
  | .here =>
    let (n, machine) := s.machine.addSource target
    .ok { machine, own := s.own.connect descriptor (.source n) }
  | .duplicate =>
    if target = ['-'] then .ok { s with own := s.own.connect descriptor .nowhere }
    else match Octets.integer? target with
      | some (.ofNat n) =>
        .ok { s with own := s.own.connect descriptor (s.own.channel n) }
      | _ => .error "Syntax error: Bad fd number"

end Conformance.Shell
