import Conformance.Config
import Conformance.Process
import Conformance.Text.Escaped

/-!
# Faults

What aborts a run as a whole. Whatever a tool under test does is a verdict and never a fault.

## Main definitions

* `Fault`: the faults
* `Fault.message`: their texts
-/

namespace Conformance

/-- What is wrong with a configuration probe. -/
inductive ProbeProblem where
  /-- It could not be started. -/
  | notStarted (reason : String)
  /-- It did not succeed. -/
  | unsuccessful (exitCode : Int32) (stderr : String)
  /-- It printed no literal. -/
  | malformed (output : String) (error : Literal.Error)
  /-- It stated a fact of the wrong kind. -/
  | wrongKind (expected : Expected) (found : Literal.Kind)
deriving DecidableEq

/-- What aborts a run. -/
inductive Fault where
  /-- There is no directory of tests at the path. -/
  | missingDirectory (path : Path)
  /-- A model cannot be read. -/
  | unreadable (reason : String)
  /-- A directive of the input at the path is wrong. -/
  | directive (path : Path) (error : Directive.Error)
  /-- The probe at the path, or the fact of that name, is wrong. -/
  | probe (path : Path) (problem : ProbeProblem)
  /-- The suite has a test of this name already. -/
  | duplicateTest (suite id : String) (path : Path)
  /-- A process could not be started. -/
  | spawn (failure : SpawnFailure)
  /-- A filter is neither a glob nor a pattern. -/
  | invalidFilter (reason : Pattern.Error)
deriving DecidableEq

/-- The text of a problem with a probe. -/
def ProbeProblem.message : ProbeProblem → String
  | notStarted reason => "failed to run: " ++ reason
  | unsuccessful exitCode stderr =>
    "exited with status " ++ exitPhrase exitCode ++ ": " ++ stderr
  | malformed output error =>
    "malformed output " ++ Text.escaped output ++ ": " ++ error.message
  | wrongKind expected found => "expected " ++ expected.phrase ++ ", found " ++ found.name

namespace Fault

/-- The text of a fault. -/
def message : Fault → String
  | missingDirectory path => "test directory " ++ path ++ " not found"
  | unreadable reason => reason
  | directive path error =>
    path ++ ":" ++ toString error.line ++ ": invalid directive: " ++ error.problem.message
  | probe path problem => "probe " ++ path ++ ": " ++ problem.message
  | duplicateTest suite id path =>
    "name collision in suite " ++ suite ++ ": " ++ id ++ " (" ++ path ++ ")"
  | spawn failure => failure.message
  | invalidFilter reason => "invalid filter '" ++ reason.message ++ "'"

/-- The text of a fault followed by those of its causes, as one line. -/
def chain : Fault → String
  | spawn failure => failure.message ++ ": " ++ failure.reason
  | fault => fault.message

end Fault

end Conformance
