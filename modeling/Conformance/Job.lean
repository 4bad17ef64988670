import Conformance.Fault
import Conformance.Tool

/-!
# Jobs

A test input together with the tool that it is run through, and the suite and the name under which
the pair is known.

## Main definitions

* `TestInput`: a test input with its expectations
* `TestInput.directives`: the directives at the head of an input
* `testName`: the name of a test by its path
* `Job`: an input and a tool, with a suite and a name
* `Job.key`: the name among all jobs
-/

namespace Conformance

/-- A test input with its expectations. -/
structure TestInput where
  path : Path
  source : String
  expectations : Expectations
deriving DecidableEq

namespace TestInput

/-- The directives at the head of a model. A fault names its path. -/
def directives (path : Path) (source : String) : Except Fault (List Directive) :=
  match Directive.parse source with
  | .ok ds => .ok ds
  | .error err => .error (.directive path err)

theorem directives_eq_ok_iff {path : Path} {source : String} {ds : List Directive} :
    directives path source = .ok ds ↔ Directive.parse source = .ok ds := by
  unfold directives
  cases Directive.parse source <;> simp

theorem directives_eq_error_iff {path : Path} {source : String} {fault : Fault} :
    directives path source = .error fault ↔
      ∃ err, Directive.parse source = .error err ∧ fault = .directive path err := by
  unfold directives
  cases Directive.parse source <;> simp [eq_comm]

/-- A model with the given source. -/
def ofSource (path : Path) (source : String) : Except Fault TestInput :=
  match Expectations.parse source with
  | .ok e => .ok ⟨path, source, e⟩
  | .error err => .error (.directive path err)

/-- A test program, from which nothing is read. -/
def executable (path : Path) : TestInput :=
  ⟨path, "", {}⟩

end TestInput

/-- A character of a test name: letters and digits of ASCII are kept. -/
def nameChar (c : Char) : Char :=
  if Text.isAsciiLetter c || Text.isAsciiDigit c then c else '_'

/-- The name of a test: `test_` and the name of its file, with an underscore for every character but
the letters and digits of ASCII. -/
def testName (path : Path) : String :=
  "test_" ++ String.ofList (((Path.lastName? path.toList).getD []).map nameChar)

/-- A test input and the tool that it is run through, with the name of the suite that the job
belongs to and its own name in there. -/
structure Job where
  suite : String
  id : String
  tool : Tool
  input : TestInput
deriving DecidableEq

/-- The name of the job among all jobs. -/
def Job.key (job : Job) : String :=
  job.suite ++ "." ++ job.id

end Conformance
