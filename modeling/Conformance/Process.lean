import Conformance.Path

/-!
# Processes

What is asked of a process and what it leaves behind.

## Main definitions

* `Invocation`: a program with its arguments and input
* `Output`: the exit code and the two streams of a finished process
* `SpawnFailure`: why a process could not be started
-/

namespace Conformance

/-- A program to run, before any wrapper is put around it. -/
structure Invocation where
  program : String
  args : List String := []
  /-- The text on standard input; without it the input is empty. -/
  stdin : Option String := none
  /-- Run under the memory checker if there is one. -/
  instrument : Bool := false
deriving DecidableEq, Repr

/-- The invocation as one line: the program and its arguments with spaces between them. -/
def Invocation.display (i : Invocation) : String :=
  String.intercalate " " (i.program :: i.args)

/-- What a finished process left behind. A process ended by a signal has the negated number of the
signal for its exit code. -/
structure Output where
  exitCode : Int32 := 0
  stdout : String := ""
  stderr : String := ""
  /-- The memory checker was around this process and reported a violation. -/
  memoryViolation : Bool := false
deriving DecidableEq, Repr

/-- Both streams, standard output first. -/
def Output.combined (o : Output) : String :=
  o.stdout ++ o.stderr

/-- A process that could not be started, and the reason the system gave. -/
structure SpawnFailure where
  program : String
  reason : String
deriving DecidableEq, Repr

/-- The text of a failure to start. -/
def SpawnFailure.message (f : SpawnFailure) : String :=
  "failed to spawn " ++ f.program ++ ": " ++ f.reason

/-- The names of the signals that can end a process. -/
def signalNames : List (Nat × String) :=
  [(1, "SIGHUP"), (2, "SIGINT"), (3, "SIGQUIT"), (4, "SIGILL"), (5, "SIGTRAP"), (6, "SIGABRT"),
   (7, "SIGBUS"), (8, "SIGFPE"), (9, "SIGKILL"), (10, "SIGUSR1"), (11, "SIGSEGV"),
   (12, "SIGUSR2"), (13, "SIGPIPE"), (14, "SIGALRM"), (15, "SIGTERM"), (16, "SIGSTKFLT"),
   (17, "SIGCHLD"), (18, "SIGCONT"), (19, "SIGSTOP"), (20, "SIGTSTP"), (21, "SIGTTIN"),
   (22, "SIGTTOU"), (23, "SIGURG"), (24, "SIGXCPU"), (25, "SIGXFSZ"), (26, "SIGVTALRM"),
   (27, "SIGPROF"), (28, "SIGWINCH"), (29, "SIGIO"), (30, "SIGPWR"), (31, "SIGSYS")]

/-- The wording of how a process ended: by its exit status, or by a signal if the code is
negative. -/
def exitPhrase (code : Int32) : String :=
  if 0 ≤ code.toInt then "exit status: " ++ toString code.toInt
  else
    let signal := code.toInt.natAbs
    "signal: " ++ toString signal ++
      match signalNames.lookup signal with
      | some name => " (" ++ name ++ ")"
      | none => ""

end Conformance
