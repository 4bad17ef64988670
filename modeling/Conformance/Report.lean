import Conformance.Json.Reader
import Conformance.Verdict

/-!
# Reports

The results of a run, counted, and written for machines and for people.

## Main definitions

* `JobResult`, `Summary`, `Report`: the results and their counts
* `Report.ofResults`: the report of some results
* `Report.json`, `Report.human`: the two texts of a report
* `JobResult.ofJson?`, `Summary.ofJson?`, `Report.ofJson?`: results, counts and reports read back
* `Report.read?`: the report that a text for machines shows
-/

namespace Conformance

/-- The result of a job. -/
structure JobResult where
  suite : String
  id : String
  path : String
  verdict : Verdict
  /-- How long the job took, in milliseconds. -/
  duration : UInt64
deriving DecidableEq, Repr

/-- The counts of some results. -/
structure Summary where
  total : Nat := 0
  passed : Nat := 0
  failed : Nat := 0
  skipped : Nat := 0
  /-- The failures for a memory violation, which are among the failed ones. -/
  memoryViolations : Nat := 0
deriving DecidableEq, Repr

namespace Summary

/-- The counts with one more verdict. -/
def count (s : Summary) : Verdict → Summary
  | .pass => { s with total := s.total + 1, passed := s.passed + 1 }
  | .skip _ => { s with total := s.total + 1, skipped := s.skipped + 1 }
  | .fail .memorySafetyViolation _ =>
    { s with
      total := s.total + 1
      failed := s.failed + 1
      memoryViolations := s.memoryViolations + 1 }
  | .fail _ _ => { s with total := s.total + 1, failed := s.failed + 1 }

/-- The counts of some results. -/
def ofResults (results : List JobResult) : Summary :=
  results.foldl (fun s r => s.count r.verdict) {}

/-- Some job failed. -/
def hasFailures (s : Summary) : Bool :=
  0 < s.failed

end Summary

/-- The results of a run with their counts. -/
structure Report where
  schemaVersion : Nat
  summary : Summary
  results : List JobResult
deriving DecidableEq, Repr

/-- The version of the form of reports. -/
def reportSchemaVersion : Nat := 1

namespace Report

/-- The report of some results. -/
def ofResults (results : List JobResult) : Report :=
  ⟨reportSchemaVersion, .ofResults results, results⟩

end Report

/-! ## Reports as JSON -/

/-- The word for a kind of failure in a report. -/
def FailureKind.tag : FailureKind → String
  | toolInvocation => "tool_invocation"
  | memorySafetyViolation => "memory_safety_violation"
  | outputMismatch => "output_mismatch"
  | validation => "validation"

/-- The kind of failure of a word. -/
def FailureKind.ofTag? : String → Option FailureKind
  | "tool_invocation" => some toolInvocation
  | "memory_safety_violation" => some memorySafetyViolation
  | "output_mismatch" => some outputMismatch
  | "validation" => some validation
  | _ => none

/-- The members by which a verdict shows in a result. -/
def Verdict.members : Verdict → List (String × Json)
  | pass => [("status", .string "pass")]
  | fail kind diagnostic =>
    [("status", .string "fail"), ("kind", .string kind.tag), ("diagnostic", .string diagnostic)]
  | skip reason => [("status", .string "skip"), ("reason", .string reason)]

/-- The words for a status, in the order of their numbers. -/
def statusWords : List String := ["pass", "fail", "skip"]

/-- The word of a status that is given by its word or by its number. -/
def statusWord? : Json → Option String
  | .string word => some word
  | .integer (.ofNat n) => statusWords[n]?
  | _ => none

/-- The verdict that the members of a result show. -/
def Verdict.ofMembers? (j : Json) : Option Verdict := do
  match ← statusWord? (← j.member? "status") with
  | "pass" => some .pass
  | "fail" =>
    let kind ← FailureKind.ofTag? (← (← j.member? "kind").tag?)
    let diagnostic ← (← j.member? "diagnostic").string?
    some (.fail kind diagnostic)
  | "skip" => some (.skip (← (← j.member? "reason").string?))
  | _ => none

/-- A number of milliseconds, within 64 bits. -/
def duration? : Json → Option UInt64
  | .integer n => if 0 ≤ n ∧ n < UInt64.size then some (UInt64.ofNat n.toNat) else none
  | _ => none

namespace JobResult

/-- A result as a JSON object. -/
def toJson (r : JobResult) : Json :=
  .object ([("suite", .string r.suite), ("id", .string r.id), ("path", .string r.path)] ++
    r.verdict.members ++ [("duration_ms", .integer r.duration.toNat)])

/-- The result that a JSON object shows; further members do not count. -/
def ofJson? (j : Json) : Option JobResult := do
  let suite ← (← j.member? "suite").string?
  let id ← (← j.member? "id").string?
  let path ← (← j.member? "path").string?
  let duration ← duration? (← j.member? "duration_ms")
  let verdict ← Verdict.ofMembers? j
  some ⟨suite, id, path, verdict, duration⟩

end JobResult

/-- The counts as a JSON object. -/
def Summary.toJson (s : Summary) : Json :=
  .object [("total", .integer s.total), ("passed", .integer s.passed),
    ("failed", .integer s.failed), ("skipped", .integer s.skipped),
    ("memory_violations", .integer s.memoryViolations)]

/-- The counts that a JSON object shows, or an array of them in order. -/
def Summary.ofJson? (j : Json) : Option Summary := do
  let counts ← j.parts? ["total", "passed", "failed", "skipped", "memory_violations"]
  match ← counts.mapM Json.natural? with
  | [total, passed, failed, skipped, memoryViolations] =>
    some ⟨total, passed, failed, skipped, memoryViolations⟩
  | _ => none

/-- The number of a version, within 32 bits. -/
def schemaVersion? (j : Json) : Option Nat := do
  let n ← j.natural?
  if n < UInt32.size then some n else none

namespace Report

/-- A report as a JSON object. -/
def toJson (r : Report) : Json :=
  .object [("schema_version", .integer r.schemaVersion), ("summary", r.summary.toJson),
    ("results", .array (r.results.map JobResult.toJson))]

/-- The report that a JSON object shows, or an array of its parts in order. The counts need not be
those of the results. -/
def ofJson? (j : Json) : Option Report := do
  match ← j.parts? ["schema_version", "summary", "results"] with
  | [version, summary, results] =>
    let version ← schemaVersion? version
    let summary ← Summary.ofJson? summary
    let results ← (← results.items?).mapM JobResult.ofJson?
    some ⟨version, summary, results⟩
  | _ => none

/-- The report for machines: its JSON text and a line break. -/
def json (r : Report) : String :=
  r.toJson.pretty ++ "\n"

/-- The report that a text for machines shows. -/
def read? (text : String) : Option Report := do
  ofJson? (← Json.read? text)

/-! ## Reports for people -/

/-- A failure: a line that names it, its diagnostic without blanks at its end, an empty line. -/
def humanResult (r : JobResult) : String :=
  match r.verdict with
  | .fail kind diagnostic =>
    "FAIL: " ++ r.suite ++ "." ++ r.id ++ " (" ++ kind.phrase ++ ")\n" ++
      String.ofList (Text.trimEnd diagnostic.toList) ++ "\n\n"
  | _ => ""

/-- The counts, in two lines. -/
def humanSummary (s : Summary) : String :=
  "Ran " ++ toString s.total ++ " test(s)\n" ++
    "Passed: " ++ toString s.passed ++ ", Failed: " ++ toString s.failed ++
    ", Skipped: " ++ toString s.skipped ++
    ", Memory violations: " ++ toString s.memoryViolations ++ "\n"

/-- The report for people: the failures, then the counts. -/
def human (r : Report) : String :=
  String.join (r.results.map humanResult) ++ humanSummary r.summary

end Report

end Conformance
