import Conformance.Shell.Command
import Conformance.Shell.Machine

/-!
# The state of a script

What a running process has of its own, on the machine that it runs on.

## Main definitions

* `Shell.Channel`: where a descriptor leads
* `Shell.Process`: arguments, variables and descriptors of a process
* `Shell.State`: a process on its machine
-/

namespace Conformance.Shell

/-- Where a descriptor leads. -/
inductive Channel where
  /-- To what is left of a text. -/
  | source (n : Nat)
  /-- To a sink. -/
  | sink (n : Nat)
  /-- To the end of a file. -/
  | file (place : Place)
  /-- To zeros without end. -/
  | zeros
  /-- To nothing that could be read, and away with everything written. -/
  | nowhere
deriving DecidableEq, Repr

/-- A variable with its value, which may be passed on to further processes. -/
structure Variable where
  name : Octets
  value : Octets
  exported : Bool

/-- How a script is to be run. -/
structure Options where
  /-- A failure that is not tested for ends the process. -/
  stopsOnFailure : Bool := false
  /-- Paths are not looked for. -/
  literalPaths : Bool := false
  /-- A parameter without a value must not be used. -/
  demandsValues : Bool := false
  /-- Simple commands are shown before they are run. -/
  traces : Bool := false

/-- What a running process has of its own. -/
structure Process where
  /-- The number of the process. -/
  id : Nat := 4000
  /-- What it was started as. -/
  name : Octets
  args : List Octets := []
  bindings : List Variable := []
  functions : List (Octets × Command) := []
  /-- The variables that belong to the current function. -/
  locals : List Octets := []
  /-- The scripts to be run on signals, and on zero at the end of the process. -/
  traps : List (Nat × Octets) := []
  /-- The number of loops around the current command. -/
  loops : Nat := 0
  directory : Place := []
  channels : List (Nat × Channel) := []
  /-- The exit status of the last command. -/
  status : Nat := 0
  /-- The exit status of the last command whose output became part of a word. -/
  captured : Nat := 0
  /-- The line of the current command. -/
  line : Nat := 1
  /-- What runs the script, as shown in complaints. -/
  caller : Octets := []
  options : Options := {}
  /-- A word could not be expanded, which ends the process. -/
  broken : Bool := false

/-- A process on its machine. -/
structure State where
  machine : Machine
  own : Process

namespace Options

/-- Choose an option by its letter. -/
def set (o : Options) (value : Bool) : Char → Options
  | 'e' => { o with stopsOnFailure := value }
  | 'f' => { o with literalPaths := value }
  | 'u' => { o with demandsValues := value }
  | 'x' => { o with traces := value }
  | _ => o

/-- The letters of the options that are chosen. -/
def letters (o : Options) : Octets :=
  [('e', o.stopsOnFailure), ('f', o.literalPaths), ('x', o.traces), ('u', o.demandsValues)].filterMap
    fun (letter, value) => if value then some letter else none

/-- The letter of an option by its name. -/
def letter? : String → Option Char
  | "errexit" => some 'e'
  | "noglob" => some 'f'
  | "nounset" => some 'u'
  | "xtrace" => some 'x'
  | _ => none

end Options

namespace Process

/-- The value of a variable. -/
def value? (p : Process) (name : Octets) : Option Octets :=
  (p.bindings.find? fun v => v.name = name).map Variable.value

/-- Give a variable a value. -/
def assign (p : Process) (name value : Octets) : Process :=
  if p.bindings.any fun v => v.name = name then
    { p with bindings := p.bindings.map fun v =>
        if v.name = name then { v with value } else v }
  else { p with bindings := p.bindings ++ [⟨name, value, false⟩] }

/-- Pass a variable on to further processes. -/
def exportVariable (p : Process) (name : Octets) : Process :=
  { p with bindings := p.bindings.map fun v =>
      if v.name = name then { v with exported := true } else v }

/-- Forget a variable. -/
def unset (p : Process) (name : Octets) : Process :=
  { p with bindings := p.bindings.filter fun v => v.name ≠ name }

/-- The channel of a descriptor. -/
def channel (p : Process) (descriptor : Nat) : Channel :=
  (p.channels.lookup descriptor).getD .nowhere

/-- Let a descriptor lead elsewhere. -/
def connect (p : Process) (descriptor : Nat) (channel : Channel) : Process :=
  { p with channels := (descriptor, channel) :: p.channels.filter fun c => c.1 ≠ descriptor }

/-- Let variables be again what they were in another process. -/
def restore (p old : Process) (names : List Octets) : Process :=
  names.foldl (fun p name =>
    match old.bindings.find? fun v => v.name = name with
    | none => p.unset name
    | some v =>
      { p with bindings := p.bindings.map fun w => if w.name = name then v else w }) p

/-- The process that another program is to be run in, under a name: nothing is left of the script
but what is passed on. -/
def successor (p : Process) (name : Octets) : Process :=
  { p with
    id := p.id + 1
    name
    bindings := p.bindings.filter Variable.exported
    functions := []
    locals := []
    traps := []
    loops := 0
    caller := []
    options := {} }

end Process

namespace State

/-- Let the last command have a status. -/
def withStatus (s : State) (status : Nat) : State :=
  { s with own := { s.own with status } }

/-- Let complaints show what runs the script. -/
def calledBy (s : State) (caller : Octets) : State :=
  { s with own := { s.own with caller } }

/-- Write to a descriptor. -/
def write (s : State) (descriptor : Nat) (text : Octets) : State :=
  match s.own.channel descriptor with
  | .sink n => { s with machine := s.machine.pour n text }
  | .file place =>
    match s.machine.files.find? place with
    | some (.file bytes _) =>
      { s with machine := s.machine.store place (Octets.ofBytes bytes ++ text) }
    | _ => { s with machine := s.machine.store place text }
  | .source _ => s
  | .zeros => s
  | .nowhere => s

/-- Write a line to the descriptor for complaints. -/
def complain (s : State) (text : String) : State :=
  s.write 2 (Octets.ofText text ++ ['\n'])

/-- Write a line to the descriptor for complaints that begins with the name of the script and the
number of the current line. -/
def complainAt (s : State) (text : Octets) : State :=
  s.write 2 (s.own.name ++ ": ".toList ++ Octets.decimal s.own.line ++ ": ".toList ++
    s.own.caller ++ text ++ ['\n'])

/-- A word could not be expanded. -/
def breakOff (s : State) : State :=
  { s with own := { s.own with broken := true } }

/-- Read all that is left on a descriptor. -/
def readAll (s : State) (descriptor : Nat) : Octets × State :=
  match s.own.channel descriptor with
  | .source n =>
    (s.machine.sources.getD n [],
      { s with machine := { s.machine with sources := s.machine.sources.set n [] } })
  | _ => ([], s)

/-- Read up to a line feed on a descriptor, and whether there was one. -/
def readLine (s : State) (descriptor : Nat) : Octets × Bool × State :=
  match s.own.channel descriptor with
  | .source n =>
    let text := s.machine.sources.getD n []
    let line := text.takeWhile (· ≠ '\n')
    (line, line.length < text.length,
      { s with machine :=
          { s.machine with sources := s.machine.sources.set n (text.drop (line.length + 1)) } })
  | _ => ([], false, s)

/-- The content of a file, by its path. -/
def content (s : State) (path : Octets) : Except Refusal Octets :=
  match Octets.toText path, s.own.channel 0 with
  | "/dev/stdin", .source n => .ok (s.machine.sources.getD n [])
  | path, _ => s.machine.content s.own.directory path

/-- What is at a path. -/
def node? (s : State) (path : Octets) : Option Node :=
  match s.machine.resolve s.own.directory (Octets.toText path) with
  | .ok (_, node) => some node
  | .error _ => none

end State

end Conformance.Shell
