import Conformance.Process
import Conformance.Text.Blank

/-!
# Verdicts

The outcome of a job, and the rules by which the exit of one stage settles it.

## Main definitions

* `Verdict`: pass, fail or skip
* `Progress`: the job goes on, or its verdict is settled
* `checkStatus`, `checkExit`, `checkConversion`: the rules for a stage
* `classifyExecutable`: the rule for a test program
-/

namespace Conformance

/-- Why a job failed. -/
inductive FailureKind where
  /-- A stage ended with another exit status than expected. -/
  | toolInvocation
  /-- The memory checker reported a violation. -/
  | memorySafetyViolation
  /-- The output lacks the expected pattern. -/
  | outputMismatch
  /-- A validator refused the output. -/
  | validation
deriving DecidableEq, Repr

/-- The wording of a kind of failure. -/
def FailureKind.phrase : FailureKind → String
  | toolInvocation => "tool invocation"
  | memorySafetyViolation => "memory safety violation"
  | outputMismatch => "output mismatch"
  | validation => "validation"

/-- The outcome of a job. -/
inductive Verdict where
  | pass
  | fail (kind : FailureKind) (diagnostic : String)
  | skip (reason : String)
deriving DecidableEq, Repr

namespace Verdict

/-- The job passed. -/
def isPass : Verdict → Bool
  | pass => true
  | _ => false

/-- The job failed. -/
def isFail : Verdict → Bool
  | fail .. => true
  | _ => false

/-- The job was skipped. -/
def isSkip : Verdict → Bool
  | skip _ => true
  | _ => false

/-- A failure whose diagnostic is a headline and all that the process wrote. -/
def failed (kind : FailureKind) (headline : String) (o : Output) : Verdict :=
  fail kind (headline ++ ":\n" ++ o.combined)

/-- A failure for a memory violation in a stage. -/
def memoryViolation (stage : String) (o : Output) : Verdict :=
  failed .memorySafetyViolation ("memory leak in " ++ stage) o

/-- A failure for the exit status of a stage. -/
def unexpectedStatus (stage : String) (o : Output) : Verdict :=
  failed .toolInvocation
    ("unexpected " ++ stage ++ " exit status " ++ toString o.exitCode.toInt) o

end Verdict

/-- Whether a job goes on after a stage. -/
inductive Progress where
  /-- The next stage may run. -/
  | proceed
  /-- No further stage may run. -/
  | finished (verdict : Verdict)
deriving DecidableEq, Repr

/-- The failure of a stage whose exit is not the expected one. A memory violation is a failure
whatever was expected. -/
def checkStatus (stage : String) (o : Output) (expected : Int32) : Option Verdict :=
  if o.memoryViolation then some (.memoryViolation stage o)
  else if o.exitCode ≠ expected then some (.unexpectedStatus stage o)
  else none

/-- A stage that ends as expected lets the job go on only if it was expected to succeed; an expected
failure is all there is to see. -/
def checkExit (stage : String) (o : Output) (expected : Int32) : Progress :=
  match checkStatus stage o expected with
  | some failure => .finished failure
  | none => if expected ≠ 0 then .finished .pass else .proceed

/-- The rule for a converter. It must fail on a construct that its target cannot express, and may
fail if the model is expected to be rejected. -/
def checkConversion (stage : String) (o : Output) (mayFail : Bool) (unsupported : Option String) :
    Progress :=
  if o.memoryViolation then .finished (.memoryViolation stage o)
  else
    match unsupported with
    | some construct =>
      if o.exitCode = 0 then
        .finished (.failed .toolInvocation
          ("unexpected " ++ stage ++ " exit status 0 on input using " ++ construct) o)
      else .finished .pass
    | none =>
      if o.exitCode = 0 then .proceed
      else if mayFail then .finished .pass
      else .finished (.unexpectedStatus stage o)

/-- The exit status by which a test program asks to be skipped. -/
def skipStatus : Int32 := 125

/-- The rule for a test program. -/
def classifyExecutable (o : Output) : Verdict :=
  if o.exitCode = 0 then .pass
  else if o.exitCode = skipStatus then
    .skip (String.ofList (Text.trim o.combined.toList))
  else
    .failed .toolInvocation ("test exited with status " ++ toString o.exitCode.toInt) o

end Conformance
