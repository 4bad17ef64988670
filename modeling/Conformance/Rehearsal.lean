import Conformance.Run

/-!
# Rehearsed runs

A runner that starts nothing: it answers from a script and records what it was asked. The script
has a list of answers for a program, by the last component of its path; they are given one after the
other, and the last one again and again.

## Main definitions

* `Rehearsal`: the answers still due and the record so far
* `Rehearsal.runner`: the runner
-/

namespace Conformance

/-- An answer of a script. -/
inductive ScriptedAnswer where
  | output (o : Output)
  | spawnError
deriving DecidableEq, Repr

/-- What was asked of a rehearsal, with the files that were there. -/
structure RecordedCall where
  call : Invocation
  environment : Environment
  files : List (String × String)

/-- The answers still due and the calls so far, in order. -/
structure Rehearsal where
  script : List (String × List ScriptedAnswer)
  record : List RecordedCall := []

namespace Rehearsal

/-- What stands behind the last slash of a path. -/
def programName (program : String) : String :=
  String.ofList (program.toList.reverse.takeWhile (· ≠ '/')).reverse

/-- The next answer for a program, and the script behind it. -/
def nextAnswer (name : String) : List (String × List ScriptedAnswer) →
    ScriptedAnswer × List (String × List ScriptedAnswer)
  | [] => (.output {}, [])
  | (name', answers) :: rest =>
    if name = name' then
      match answers with
      | [] => (.output {}, (name', []) :: rest)
      | [last] => (last, (name', [last]) :: rest)
      | a :: answers => (a, (name', answers) :: rest)
    else
      let (a, rest) := nextAnswer name rest
      (a, (name', answers) :: rest)

/-- The files of a world by their names, read as text. -/
def filesByName (files : FileTree) : List (String × String) :=
  (files.filesBelow []).map fun (place, content) =>
    (place.getLast?.getD "", Text.decodeLossy content)

/-- The runner that follows the script. -/
def runner : Runner Rehearsal where
  run call environment w :=
    let (answer, script) := nextAnswer (programName call.program) w.state.script
    let record := w.state.record ++ [⟨call, environment, filesByName w.files⟩]
    let w := { w with state := ⟨script, record⟩ }
    match answer with
    | .output o => (.ok o, w)
    | .spawnError => (.error ⟨call.program, "not found"⟩, w)

/-- The world before a rehearsal. -/
def start (script : List (String × List ScriptedAnswer)) : World Rehearsal :=
  ⟨{}, ⟨script, []⟩⟩

end Rehearsal

end Conformance
