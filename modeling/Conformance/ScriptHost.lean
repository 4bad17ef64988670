import Conformance.Procedure
import Conformance.Shell.Interpreter

/-!
# Hosts that run scripts

A runner whose programs are scripts in the files of the host, beside a few small programs that every
host has. Nothing outside the world that it is given takes part.

## Main definitions

* `ScriptHost.start`: the start of a program with its arguments, input and environment
* `ScriptHost.runner`: the runner
-/

namespace Conformance.ScriptHost

/-- Steps that a process may take. -/
def processFuel : Nat := 1000000

/-- The environment that every process has. -/
def standardEnvironment : Environment :=
  [("HOME", "/"), ("PATH", Machine.standardPath)]

/-- A text that no process can be given. -/
def hasNul (s : String) : Bool :=
  s.toList.contains '\x00'

/-- Some text of an invocation cannot be given to a process. -/
def isImpossible (call : Invocation) (environment : Environment) : Bool :=
  hasNul call.program || call.args.any hasNul ||
    environment.any fun (name, value) => hasNul name || hasNul value

/-- The environment with the standard one; of several values for a name the last one counts. -/
def bindings (environment : Environment) : List Shell.Variable :=
  (Dictionary.ofList (standardEnvironment ++ environment)).map fun (name, value) =>
    ⟨Octets.ofText name, Octets.ofText value, true⟩

/-- The state at the start of a process. Its input is the first text, its output and its complaints
are the first two sinks. -/
def initial (files : FileTree) (current : Place) (call : Invocation) (environment : Environment) :
    Shell.State :=
  { machine :=
      { files
        sources := [Octets.ofText (call.stdin.getD "")]
        sinks := [[], []] }
    own :=
      { name := Octets.ofText call.program
        bindings := bindings environment
        directory := current
        channels := [(0, .source 0), (1, .sink 0), (2, .sink 1)] } }

/-- The exit code of a process that has ended. -/
def exitCode (flow : Shell.Flow) (s : Shell.State) : Int32 :=
  match flow with
  | .killed signal => Int32.ofInt (-signal)
  | _ => Int32.ofNat (s.own.status % 256)

/-- Start a program and wait for its end: its output and the files it leaves, or the reason why it
could not be started. -/
def start (current : Place) (call : Invocation) (environment : Environment) (files : FileTree) :
    Except String (Output × FileTree) :=
  if isImpossible call environment then .error "nul byte found in provided data"
  else
    let s := initial files current call environment
    match s.machine.search current s.searchPath call.program with
    | .error refusal => .error refusal.message
    | .ok image =>
      let (flow, s) := Shell.start processFuel image (call.args.map Octets.ofText) s
      .ok
        ({ exitCode := exitCode flow s
           stdout := Octets.toText (s.machine.collected 0)
           stderr := Octets.toText (s.machine.collected 1) }, s.machine.files)

/-- The runner of a host with a current directory. -/
def runner (current : Place) : Runner Unit where
  run call environment w :=
    match start current call environment w.files with
    | .ok (o, files) => (.ok o, { w with files })
    | .error reason => (.error ⟨call.program, reason⟩, w)

/-- The world with some files. -/
def world (files : FileTree) : World Unit :=
  ⟨files, ()⟩

end Conformance.ScriptHost
