import Conformance.Verdict
import Mathlib.Tactic.SplitIfs

/-!
# When a stage settles the verdict

The rules for a stage, read as equivalences: when a stage lets the job go on, and when it passes the
job.

## Main results

* `checkExit_eq_proceed_iff`, `checkConversion_eq_proceed_iff`: the stage lets the job go on
* `checkExit_eq_pass_iff`, `checkConversion_eq_pass_iff`: the stage passes the job
-/

namespace Conformance

@[simp] theorem Verdict.failed_ne_pass (kind : FailureKind) (headline : String) (o : Output) :
    failed kind headline o ≠ pass := nofun

@[simp] theorem Verdict.memoryViolation_ne_pass (stage : String) (o : Output) :
    memoryViolation stage o ≠ pass := nofun

@[simp] theorem Verdict.unexpectedStatus_ne_pass (stage : String) (o : Output) :
    unexpectedStatus stage o ≠ pass := nofun

variable {stage : String} {o : Output} {expected : Int32}

theorem checkStatus_eq_none_iff :
    checkStatus stage o expected = none ↔ o.memoryViolation = false ∧ o.exitCode = expected := by
  unfold checkStatus
  split_ifs with hm he <;> simp_all

theorem checkStatus_ne_pass : checkStatus stage o expected ≠ some .pass := by
  unfold checkStatus
  split_ifs <;> simp

theorem checkExit_eq_proceed_iff :
    checkExit stage o expected = .proceed ↔
      o.memoryViolation = false ∧ o.exitCode = 0 ∧ expected = 0 := by
  unfold checkExit
  cases h : checkStatus stage o expected with
  | some failure =>
    have hne : ¬(o.memoryViolation = false ∧ o.exitCode = expected) := fun he => by
      simp [checkStatus_eq_none_iff.mpr he] at h
    simp only [reduceCtorEq, false_iff]
    rintro ⟨hm, he, rfl⟩
    exact hne ⟨hm, he⟩
  | none =>
    obtain ⟨hm, rfl⟩ := checkStatus_eq_none_iff.mp h
    by_cases he : o.exitCode = 0 <;> simp [hm, he]

theorem checkExit_eq_pass_iff :
    checkExit stage o expected = .finished .pass ↔
      o.memoryViolation = false ∧ o.exitCode = expected ∧ expected ≠ 0 := by
  unfold checkExit
  cases h : checkStatus stage o expected with
  | some failure =>
    have hne : ¬(o.memoryViolation = false ∧ o.exitCode = expected) := fun he => by
      simp [checkStatus_eq_none_iff.mpr he] at h
    have hpass : failure ≠ .pass := fun hf => checkStatus_ne_pass (hf ▸ h)
    simp only [Progress.finished.injEq, hpass, false_iff]
    rintro ⟨hm, he, -⟩
    exact hne ⟨hm, he⟩
  | none =>
    obtain ⟨hm, rfl⟩ := checkStatus_eq_none_iff.mp h
    by_cases he : o.exitCode = 0 <;> simp [hm, he]

variable {mayFail : Bool} {unsupported : Option String}

theorem checkConversion_eq_proceed_iff :
    checkConversion stage o mayFail unsupported = .proceed ↔
      o.memoryViolation = false ∧ o.exitCode = 0 ∧ unsupported = none := by
  unfold checkConversion
  cases unsupported <;> split_ifs <;> simp_all

theorem checkConversion_eq_pass_iff :
    checkConversion stage o mayFail unsupported = .finished .pass ↔
      o.memoryViolation = false ∧ o.exitCode ≠ 0 ∧ (unsupported.isSome ∨ mayFail = true) := by
  unfold checkConversion
  cases unsupported <;> split_ifs <;> simp_all

/-- A converter that succeeds on what its target cannot express is a failure. -/
theorem checkConversion_of_unsupported (construct : String) (hm : o.memoryViolation = false)
    (he : o.exitCode = 0) :
    checkConversion stage o mayFail (some construct) = .finished (.failed .toolInvocation
      ("unexpected " ++ stage ++ " exit status 0 on input using " ++ construct) o) := by
  simp [checkConversion, hm, he]

end Conformance
