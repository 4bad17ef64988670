import Conformance.Report
import Mathlib.Data.List.Basic
import Mathlib.Tactic.SplitIfs

/-!
# The counts of results

The counts of some results are the numbers of those with a verdict of each kind.

## Main results

* `Summary.ofResults_eq`: the counts, one by one
* `Summary.hasFailures_iff`: there are failures exactly if some result is one
-/

namespace Conformance

/-- The verdict is a failure for a memory violation. -/
def Verdict.isMemoryViolation : Verdict → Bool
  | fail .memorySafetyViolation _ => true
  | _ => false

namespace Summary

/-- One more verdict counts among all and among those of its kind. -/
theorem count_eq (s : Summary) (v : Verdict) :
    s.count v =
      ⟨s.total + 1, s.passed + (if v.isPass then 1 else 0), s.failed + (if v.isFail then 1 else 0),
        s.skipped + (if v.isSkip then 1 else 0),
        s.memoryViolations + (if v.isMemoryViolation then 1 else 0)⟩ := by
  cases v with
  | pass => rfl
  | skip reason => rfl
  | fail kind diagnostic => cases kind <;> rfl

/-- Some results are counted beside others. -/
theorem foldl_count (s : Summary) (results : List JobResult) :
    results.foldl (fun s r => s.count r.verdict) s =
      ⟨s.total + results.length, s.passed + results.countP (·.verdict.isPass),
        s.failed + results.countP (·.verdict.isFail),
        s.skipped + results.countP (·.verdict.isSkip),
        s.memoryViolations + results.countP (·.verdict.isMemoryViolation)⟩ := by
  induction results generalizing s with
  | nil => rfl
  | cons r results ih =>
    rw [List.foldl_cons, ih, count_eq]
    simp only [List.countP_cons, List.length_cons, mk.injEq]
    omega

/-- **The counts of some results** are the numbers of those of each kind. -/
theorem ofResults_eq (results : List JobResult) :
    ofResults results =
      ⟨results.length, results.countP (·.verdict.isPass), results.countP (·.verdict.isFail),
        results.countP (·.verdict.isSkip), results.countP (·.verdict.isMemoryViolation)⟩ := by
  rw [ofResults, foldl_count]
  simp

/-- **There are failures exactly if some result is one.** -/
theorem hasFailures_iff (results : List JobResult) :
    (ofResults results).hasFailures = true ↔ ∃ r ∈ results, r.verdict.isFail = true := by
  rw [ofResults_eq, hasFailures, decide_eq_true_eq, List.countP_pos_iff]

end Summary

end Conformance
