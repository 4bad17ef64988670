import Conformance.Proofs.Verdict
import Mathlib.Logic.Basic

/-!
# The rules for a stage agree

The exit of a stage is judged by one of three rules: by its status alone, by its status and whether
the job then goes on, or as that of a converter. The first two differ in what an expected failure
means; the third is written apart from them, with more cases. Where they say something about the
same exit they say the same, to the letter of the diagnostic, and a violation comes before
everything that may be expected.

## Main results

* `checkExit_eq_finished_iff`: the second rule settles what the first settles, and expected failures
* `checkConversion_eq_checkExit`: a converter of which nothing is known is judged as any other tool
* `checkConversion_mayFail_ne_iff`: when it matters that a converter may fail
* `stage_rules_agree`: the agreement of the three rules
-/

namespace Conformance

variable {stage : String} {o : Output} {expected : Int32} {mayFail : Bool}
  {unsupported : Option String}

/-! ## Violations -/

section Violation

variable (h : o.memoryViolation = true)
include h

theorem checkStatus_of_violation (stage : String) (expected : Int32) :
    checkStatus stage o expected = some (.memoryViolation stage o) := by
  rw [checkStatus, if_pos h]

theorem checkExit_of_violation (stage : String) (expected : Int32) :
    checkExit stage o expected = .finished (.memoryViolation stage o) := by
  rw [checkExit, checkStatus_of_violation h]

theorem checkConversion_of_violation (stage : String) (mayFail : Bool)
    (unsupported : Option String) :
    checkConversion stage o mayFail unsupported = .finished (.memoryViolation stage o) := by
  unfold checkConversion
  rw [if_pos h]

end Violation

/-! ## Exits of tools -/

/-- A job is settled by what its status alone settles, and by an expected failure, which passes. -/
theorem checkExit_eq_finished_iff {v : Verdict} :
    checkExit stage o expected = .finished v ↔
      checkStatus stage o expected = some v ∨
        checkStatus stage o expected = none ∧ expected ≠ 0 ∧ v = .pass := by
  unfold checkExit
  cases checkStatus stage o expected with
  | some failure => simp
  | none =>
    rcases eq_or_ne expected 0 with hzero | hne
    · simp [hzero]
    · simp [hne, eq_comm]

/-! ## Exits of converters -/

theorem checkConversion_of_success (h : o.memoryViolation = false) (he : o.exitCode = 0)
    (stage : String) (mayFail : Bool) : checkConversion stage o mayFail none = .proceed :=
  checkConversion_eq_proceed_iff.mpr ⟨h, he, rfl⟩

theorem checkConversion_of_failure (h : o.memoryViolation = false) (he : o.exitCode ≠ 0)
    (stage : String) :
    checkConversion stage o false none = .finished (.unexpectedStatus stage o) := by
  simp [checkConversion, h, he]

theorem checkConversion_of_allowed_failure (h : o.memoryViolation = false) (he : o.exitCode ≠ 0)
    (stage : String) : checkConversion stage o true none = .finished .pass :=
  checkConversion_eq_pass_iff.mpr ⟨h, he, .inr rfl⟩

/-- **A converter of which nothing is known is judged as any tool that should succeed.** -/
theorem checkConversion_eq_checkExit (stage : String) (o : Output) :
    checkConversion stage o false none = checkExit stage o 0 := by
  rcases Bool.eq_false_or_eq_true o.memoryViolation with hm | hm
  · rw [checkConversion_of_violation hm, checkExit_of_violation hm]
  · rcases eq_or_ne o.exitCode 0 with he | he
    · rw [checkConversion_of_success hm he]
      exact (checkExit_eq_proceed_iff.mpr ⟨hm, he, rfl⟩).symm
    · have hstatus : checkStatus stage o 0 = some (.unexpectedStatus stage o) := by
        simp [checkStatus, hm, he]
      rw [checkConversion_of_failure hm he]
      exact (checkExit_eq_finished_iff.mpr (.inl hstatus)).symm

/-- What a converter may do does not matter where it must fail. -/
theorem checkConversion_construct (stage : String) (o : Output) (construct : String)
    (mayFail mayFail' : Bool) :
    checkConversion stage o mayFail (some construct) =
      checkConversion stage o mayFail' (some construct) :=
  rfl

/-- **That a converter may fail matters** for a failure alone, where nothing else explains it. -/
theorem checkConversion_mayFail_ne_iff :
    checkConversion stage o true unsupported ≠ checkConversion stage o false unsupported ↔
      unsupported = none ∧ o.memoryViolation = false ∧ o.exitCode ≠ 0 := by
  constructor
  · intro hne
    cases unsupported with
    | some construct => exact absurd (checkConversion_construct ..) hne
    | none =>
      -- a violation and a success are judged without asking whether a failure is allowed
      rcases Bool.eq_false_or_eq_true o.memoryViolation with hm | hm
      · rw [checkConversion_of_violation hm, checkConversion_of_violation hm] at hne
        contradiction
      · refine ⟨rfl, hm, fun he => hne ?_⟩
        rw [checkConversion_of_success hm he, checkConversion_of_success hm he]
  · rintro ⟨rfl, hm, he⟩
    rw [checkConversion_of_allowed_failure hm he, checkConversion_of_failure hm he]
    intro heq
    exact Verdict.unexpectedStatus_ne_pass stage o (Progress.finished.inj heq).symm

/-! ## The three rules -/

/-- **The rules for a stage agree** wherever they overlap. To judge an exit is to judge its status,
but for an expected failure, with which the job passes; the job goes on exactly if a success was
expected and seen. A converter that has no reason to fail is judged as any other tool that should
succeed. That it may fail turns nothing but its failure into a pass, and nothing at all if it must
fail. A violation is the same failure under all three rules, whatever else is expected. -/
theorem stage_rules_agree (stage : String) (o : Output) :
    (∀ expected,
      (∀ v, checkExit stage o expected = .finished v ↔
        checkStatus stage o expected = some v ∨
          checkStatus stage o expected = none ∧ expected ≠ 0 ∧ v = .pass) ∧
      (checkExit stage o expected = .proceed ↔
        o.memoryViolation = false ∧ o.exitCode = expected ∧ expected = 0)) ∧
      checkConversion stage o false none = checkExit stage o 0 ∧
      (∀ unsupported,
        (checkConversion stage o true unsupported ≠ checkConversion stage o false unsupported ↔
          unsupported = none ∧ o.memoryViolation = false ∧ o.exitCode ≠ 0) ∧
        (checkConversion stage o true unsupported ≠ checkConversion stage o false unsupported →
          (∃ diagnostic, checkConversion stage o false unsupported =
            .finished (.fail .toolInvocation diagnostic)) ∧
          checkConversion stage o true unsupported = .finished .pass)) ∧
      (∀ construct mayFail mayFail', checkConversion stage o mayFail (some construct) =
        checkConversion stage o mayFail' (some construct)) ∧
      (o.memoryViolation = true → ∃ diagnostic,
        let violation := Verdict.fail .memorySafetyViolation diagnostic
        (∀ expected, checkStatus stage o expected = some violation ∧
          checkExit stage o expected = .finished violation) ∧
        ∀ mayFail unsupported,
          checkConversion stage o mayFail unsupported = .finished violation) := by
  refine ⟨fun expected => ⟨fun v => checkExit_eq_finished_iff, ?_⟩,
    checkConversion_eq_checkExit stage o,
    fun unsupported => ⟨checkConversion_mayFail_ne_iff, fun hne => ?_⟩,
    checkConversion_construct stage o, fun hm => ?_⟩
  · rw [checkExit_eq_proceed_iff]
    constructor
    · rintro ⟨hm, he, rfl⟩
      exact ⟨hm, he, rfl⟩
    · rintro ⟨hm, he, rfl⟩
      exact ⟨hm, he, rfl⟩
  · obtain ⟨rfl, hm, he⟩ := checkConversion_mayFail_ne_iff.mp hne
    exact ⟨⟨_, checkConversion_of_failure hm he stage⟩,
      checkConversion_of_allowed_failure hm he stage⟩
  · refine ⟨_, fun expected => ⟨checkStatus_of_violation hm stage expected,
      checkExit_of_violation hm stage expected⟩, fun mayFail unsupported => ?_⟩
    exact checkConversion_of_violation hm stage mayFail unsupported

end Conformance
