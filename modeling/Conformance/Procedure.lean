import Conformance.Fault
import Conformance.FileTree

/-!
# Procedures and their performance

A procedure asks for processes to be run and files to be written, one after the other, and comes to
a result. It is performed against any runner, which may keep a state and change the files of the
host. A performance keeps the record of all exchanges with the runner.

## Main definitions

* `Procedure α`: the procedures with results in `α`
* `Runner σ`: what starts processes, with a state in `σ`
* `Procedure.perform`: the performance of a procedure
* `Performance`: its result, its exchanges and the world it leaves
-/

namespace Conformance

/-- A sequence of requests with a result. -/
inductive Procedure (α : Type) where
  /-- No more requests. -/
  | done (result : α)
  /-- Run a process and go on with its output. -/
  | run (call : Invocation) (next : Output → Procedure α)
  /-- Write a text into a file of the scratch directory and go on. -/
  | write (name : String) (text : String) (next : Procedure α)

/-- The files of a host and whatever else its processes depend on. -/
structure World (σ : Type) where
  files : FileTree
  state : σ

/-- Environment variables, added to those of the host. -/
abbrev Environment := List (String × String)

/-- What starts processes. -/
structure Runner (σ : Type) where
  /-- Run an invocation exactly as given and wait for its end. -/
  run : Invocation → Environment → World σ → Except SpawnFailure Output × World σ
  /-- The time, in milliseconds. -/
  clock : World σ → Nat := fun _ => 0

/-- One exchange with a runner: what was asked, and what it answered. -/
structure Exchange where
  call : Invocation
  environment : Environment
  answer : Except SpawnFailure Output

/-- A result or a fault, the exchanges on the way and the world afterwards. -/
structure Performance (α σ : Type) where
  result : Except Fault α
  exchanges : List Exchange
  world : World σ

/-! ## The memory checker -/

/-- The exit status by which the memory checker reports a violation. -/
def violationStatus : Int32 := 42

/-- The arguments of the memory checker, before the command that it watches. -/
def memoryCheckerArgs : List String :=
  ["--leak-check=full", "--show-leak-kinds=all",
   "--error-exitcode=" ++ toString violationStatus.toInt]

namespace Config

/-- The memory checker is to be put around the invocation. -/
def wraps (config : Config) (i : Invocation) : Bool :=
  i.instrument && config.hasValgrind

/-- The invocation as it is handed to the runner, with the memory checker around it where it is
wanted and there is one. -/
def prepare (config : Config) (i : Invocation) : Invocation :=
  if config.wraps i then
    { program := config.toolchain.valgrind
      args := memoryCheckerArgs ++ i.program :: i.args
      stdin := i.stdin
      instrument := false }
  else i

/-- The output of an invocation, with a violation noted where the memory checker reported one. -/
def interpret (config : Config) (i : Invocation) (o : Output) : Output :=
  { o with memoryViolation := config.wraps i && o.exitCode == violationStatus }

end Config

/-- Run one invocation under a configuration. -/
def execute {σ : Type} (runner : Runner σ) (config : Config) (i : Invocation) (w : World σ) :
    Except SpawnFailure Output × World σ :=
  match runner.run (config.prepare i) config.environment w with
  | (.ok o, w) => (.ok (config.interpret i o), w)
  | (.error failure, w) => (.error failure, w)

namespace Procedure

variable {α σ : Type}

/-- Perform a procedure, with its files in the directory `scratch`. The first process that cannot be
started ends it. -/
def perform (runner : Runner σ) (config : Config) (scratch : Place) :
    Procedure α → World σ → Performance α σ
  | done result, w => ⟨.ok result, [], w⟩
  | run call next, w =>
    let prepared := config.prepare call
    let environment := config.environment
    match runner.run prepared environment w with
    | (.error failure, w) =>
      ⟨.error (.spawn failure), [⟨prepared, environment, .error failure⟩], w⟩
    | (.ok o, w) =>
      let rest := (next (config.interpret call o)).perform runner config scratch w
      { rest with exchanges := ⟨prepared, environment, .ok o⟩ :: rest.exchanges }
  | write name text next, w =>
    next.perform runner config scratch
      { w with files := w.files.write (scratch ++ [name]) (Text.encode text) }

@[simp] theorem perform_done (runner : Runner σ) (config : Config) (scratch : Place) (a : α)
    (w : World σ) : (done a).perform runner config scratch w = ⟨.ok a, [], w⟩ := rfl

@[simp] theorem perform_write (runner : Runner σ) (config : Config) (scratch : Place)
    (name text : String) (next : Procedure α) (w : World σ) :
    (write name text next).perform runner config scratch w =
      next.perform runner config scratch
        { w with files := w.files.write (scratch ++ [name]) (Text.encode text) } := rfl

/-- A process of a procedure is run as `execute` says, and the procedure goes on with its output. -/
theorem perform_run (runner : Runner σ) (config : Config) (scratch : Place) (call : Invocation)
    (next : Output → Procedure α) (w : World σ) :
    let p := (run call next).perform runner config scratch w
    (p.result, p.world) =
      match execute runner config call w with
      | (.ok o, w) =>
        let rest := (next o).perform runner config scratch w
        (rest.result, rest.world)
      | (.error failure, w) => (.error (.spawn failure), w) := by
  unfold execute
  simp only [perform]
  obtain ⟨_ | o, w'⟩ := runner.run (config.prepare call) config.environment w <;> rfl

end Procedure

end Conformance
