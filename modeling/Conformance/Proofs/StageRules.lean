import Conformance.Proofs.Stages
import Mathlib.Logic.Basic

/-!
# The rules of the stages

When a stage of a job lets the chain go on and when it passes the job, in terms of what its process
left behind, of the expectations and the source of the job, and of the configuration.

## Main definitions

* `Config.Violated`: the memory checker reported a violation
* `Tool.Unsupported`: the source has what the target of a converter cannot express
* `Job.ChecksOut`: the output of a checker is as expected

## Main results

* `Job.checkedAs_eq_proceed_iff`, `Job.checkedAs_eq_pass_iff`: the rule for a compiled checker
* `Job.convertStage_eq_proceed_iff`, `Job.convertStage_eq_pass_iff`: the rule for a converter
* `Job.generate_eq_proceed_iff`, `Job.generate_eq_pass_iff`: the rule for the generator
* `Course.validation_passes_iff`, `Course.compilation_passes_iff`: how the last stage of a chain
  passes the job
* `Course.conversion_passes_iff`, `Course.conversion_fails`: how a converter and what follows it
  pass and fail the job
-/

namespace Conformance

/-- The memory checker is there and reported a violation by this exit status. -/
def Config.Violated (config : Config) (o : Output) : Prop :=
  config.hasValgrind = true ∧ o.exitCode = 42

theorem Config.not_violated_of_success {config : Config} {o : Output} (h : o.exitCode = 0) :
    ¬ config.Violated o := by
  rintro ⟨-, h'⟩
  rw [h] at h'
  exact absurd h' (by decide)

/-- An instrumented run is taken for a violation exactly if the memory checker reported one. -/
theorem Config.interpret_memoryViolation_eq_false {config : Config} {i : Invocation} {o : Output}
    (h : i.instrument = true) :
    (config.interpret i o).memoryViolation = false ↔ ¬ config.Violated o := by
  rw [← Bool.not_eq_true, interpret_memoryViolation]
  simp [h, Violated, violationStatus]

/-- The source has what the target of the converter cannot express: the word `isundefined` for C,
and a percent sign for Uclid5. -/
def Tool.Unsupported (tool : Tool) (source : String) : Prop :=
  match tool with
  | murphi2c | murphi2cHeader => Text.HasWord source.toList "isundefined".toList
  | murphi2uclid => '%' ∈ source.toList
  | executable | checker _ | murphi2xml => False

theorem Tool.unsupported?_isSome_iff (tool : Tool) (source : String) :
    (tool.unsupported? source).isSome = true ↔ tool.Unsupported source := by
  have hword : Text.containsWord source "isundefined" = true ↔
      Text.HasWord source.toList "isundefined".toList :=
    Text.containsWord_iff (by decide) (by decide)
  cases tool with
  | murphi2c | murphi2cHeader =>
    simp only [unsupported?, Unsupported, ← hword]
    split_ifs with h <;> simp [h]
  | murphi2uclid =>
    simp only [unsupported?, Unsupported, List.contains_iff_mem]
    split_ifs with h <;> simp [h]
  | executable | checker | murphi2xml => simp [unsupported?, Unsupported]

theorem Tool.unsupported?_eq_none_iff (tool : Tool) (source : String) :
    tool.unsupported? source = none ↔ ¬ tool.Unsupported source := by
  rw [← unsupported?_isSome_iff]
  simp

namespace Job

variable {job : Job} {config : Config} {v : Variant} {o : Output}

/-! ## The compiled checker -/

/-- The output of the checker is as expected: its exit status, and the pattern if one is
declared. -/
def ChecksOut (job : Job) (o : Output) : Prop :=
  o.exitCode = job.input.expectations.checkerStatus ∧
    ∀ p ∈ job.input.expectations.checkerOutput, p.foundIn o.stdout = true

theorem outputMismatch?_eq_none_iff :
    job.outputMismatch? o = none ↔
      ∀ p ∈ job.input.expectations.checkerOutput, p.foundIn o.stdout = true := by
  unfold outputMismatch?
  cases job.input.expectations.checkerOutput with
  | none => simp
  | some p =>
    by_cases hp : p.foundIn o.stdout = true <;> simp [hp]

theorem outputMismatch?_ne_pass : job.outputMismatch? o ≠ some .pass := by
  unfold outputMismatch?
  cases job.input.expectations.checkerOutput with
  | none => simp
  | some p => by_cases hp : p.foundIn o.stdout = true <;> simp [hp]

theorem wantsValidation_iff :
    job.wantsValidation v = true ↔
      v.format = .machineReadable ∧ ¬ Text.HasWord job.input.source.toList "put".toList := by
  rw [← Text.containsWord_iff (by decide) (by decide)]
  simp [wantsValidation, Variant.isXml]

/-- A checker whose output is as expected leaves it to the validation, if there is one. -/
theorem checkedAs_of_checksOut (hm : o.memoryViolation = false) (h : job.ChecksOut o) :
    job.checkedAs config v o =
      if job.wantsValidation v = true then needs config.hasXmllint "xmllint not available"
      else .finished .pass := by
  unfold checkedAs
  rw [checkStatus_eq_none_iff.mpr ⟨hm, h.1⟩, outputMismatch?_eq_none_iff.mpr h.2]

/-- A checker whose output is not as expected ends the job, and does not pass it. -/
theorem checkedAs_of_not_checksOut (config : Config) (v : Variant) (h : ¬ job.ChecksOut o) :
    ∃ verdict, verdict ≠ .pass ∧ job.checkedAs config v o = .finished verdict := by
  unfold checkedAs
  cases hs : checkStatus "checker" o job.input.expectations.checkerStatus with
  | some failure => exact ⟨failure, fun hf => checkStatus_ne_pass (hf ▸ hs), rfl⟩
  | none =>
    cases hp : job.outputMismatch? o with
    | some failure => exact ⟨failure, fun hf => outputMismatch?_ne_pass (hf ▸ hp), rfl⟩
    | none =>
      exact absurd ⟨(checkStatus_eq_none_iff.mp hs).2, outputMismatch?_eq_none_iff.mp hp⟩ h

theorem checkedAs_eq_proceed_iff (hm : o.memoryViolation = false) :
    job.checkedAs config v o = .proceed ↔
      job.ChecksOut o ∧ job.wantsValidation v = true ∧ config.hasXmllint = true := by
  by_cases h : job.ChecksOut o
  · rw [checkedAs_of_checksOut hm h]
    by_cases hw : job.wantsValidation v = true <;> simp [h, hw, needs_eq_proceed_iff]
  · obtain ⟨verdict, -, hv⟩ := checkedAs_of_not_checksOut config v h
    simp [hv, h]

theorem checkedAs_eq_pass_iff (hm : o.memoryViolation = false) :
    job.checkedAs config v o = .finished .pass ↔
      job.ChecksOut o ∧ job.wantsValidation v = false := by
  by_cases h : job.ChecksOut o
  · rw [checkedAs_of_checksOut hm h]
    by_cases hw : job.wantsValidation v = true <;> simp [h, hw]
  · obtain ⟨verdict, hne, hv⟩ := checkedAs_of_not_checksOut config v h
    simp [hv, h, hne]

/-! ## The generator and the converters -/

theorem generate_eq_proceed_iff {scratch : Path} {stage : String} {expected : Int32} :
    checkExit stage (config.interpret (job.generate config v scratch) o) expected = .proceed ↔
      o.exitCode = 0 ∧ expected = 0 := by
  -- the status of a violation is not that of success
  rw [checkExit_eq_proceed_iff, Config.interpret_memoryViolation_eq_false rfl]
  exact ⟨And.right, fun h => ⟨Config.not_violated_of_success h.1, h⟩⟩

theorem generate_eq_pass_iff {scratch : Path} {stage : String} {expected : Int32} :
    checkExit stage (config.interpret (job.generate config v scratch) o) expected =
        .finished .pass ↔
      ¬ config.Violated o ∧ o.exitCode = expected ∧ expected ≠ 0 := by
  rw [checkExit_eq_pass_iff, Config.interpret_memoryViolation_eq_false rfl,
    Config.interpret_exitCode]

variable {stage : String} {program : Path} {flags : List String} {further : Progress}

/-- Behind a converter the chain goes on exactly if it succeeded on what its target can express. -/
theorem convertStage_eq_proceed_iff :
    (job.convertStage stage program flags further).check
        (config.interpret (job.convertCall program flags) o) = .proceed ↔
      o.exitCode = 0 ∧ ¬ job.tool.Unsupported job.input.source ∧ further = .proceed := by
  rw [convertStage, Progress.and_eq_proceed_iff, checkConversion_eq_proceed_iff,
    Config.interpret_memoryViolation_eq_false rfl, Tool.unsupported?_eq_none_iff, and_assoc,
    and_assoc]
  exact ⟨And.right, fun h => ⟨Config.not_violated_of_success h.1, h⟩⟩

/-- A converter passes the job by itself exactly if it failed, without a violation, and had a reason
to. -/
theorem convertStage_eq_pass_iff (hf : further ≠ .finished .pass) :
    (job.convertStage stage program flags further).check
        (config.interpret (job.convertCall program flags) o) = .finished .pass ↔
      ¬ config.Violated o ∧ o.exitCode ≠ 0 ∧
        (job.tool.Unsupported job.input.source ∨
          job.input.expectations.generatorStatus ≠ 0) := by
  rw [convertStage, Progress.and_eq_finished_iff, checkConversion_eq_pass_iff,
    Config.interpret_memoryViolation_eq_false rfl, Tool.unsupported?_isSome_iff]
  simp [hf]

/-- A converter that succeeds on what its target cannot express fails the job. -/
theorem convertStage_of_unsupported (he : o.exitCode = 0)
    (hu : job.tool.Unsupported job.input.source) :
    ∃ headline, (job.convertStage stage program flags further).check
      (config.interpret (job.convertCall program flags) o) =
        .finished (.failed .toolInvocation headline o) := by
  obtain ⟨construct, hc⟩ :=
    Option.isSome_iff_exists.mp ((Tool.unsupported?_isSome_iff _ _).mpr hu)
  have hm : (config.interpret (job.convertCall program flags) o).memoryViolation = false :=
    (Config.interpret_memoryViolation_eq_false rfl).mpr (Config.not_violated_of_success he)
  refine ⟨"unexpected " ++ stage ++ " exit status 0 on input using " ++ construct, ?_⟩
  simp only [convertStage, hc, checkConversion_of_unsupported construct hm he,
    Progress.finished_and]
  rfl

end Job

/-! ## Chains that end, and chains that begin with a converter -/

variable {config : Config} {before : String} {xs : List Exchange} {r : Except Fault Verdict}

/-- A chain that ends with a validation passes exactly if the validator succeeds. -/
theorem Course.validation_passes_iff {file? : Option String} {call : String → Invocation}
    {headline : String}
    (h : Course config [⟨file?, call, fun o => .finished (checkValidation headline o)⟩] before
      xs r) (hi : (call before).instrument = false) :
    r = .ok .pass ↔ ∃ o, Ran xs 0 (call before) o ∧ o.exitCode = 0 := by
  rw [h.eq_ok_iff_of_not_instrument hi .pass fun o xs h => h.eq_ok_iff_of_nil .pass]
  simp [checkValidation_eq_pass_iff]

/-- A chain that ends with a compilation passes exactly if the compiler exits as expected. -/
theorem Course.compilation_passes_iff {file? : Option String} {call : String → Invocation}
    {stage : String} {expected : Int32}
    (h : Course config [⟨file?, call, fun o => checkExit stage o expected⟩] before xs r)
    (hi : (call before).instrument = false) :
    r = .ok .pass ↔ ∃ o, Ran xs 0 (call before) o ∧ o.exitCode = expected := by
  rw [h.eq_ok_iff_of_not_instrument hi .pass fun o xs h => h.eq_ok_iff_of_nil .pass]
  refine exists_congr fun o => and_congr_right fun _ => ?_
  rw [checkExit_eq_pass_iff, checkExit_eq_proceed_iff]
  by_cases he : expected = 0 <;> simp [he]

/-- A chain that begins with a converter passes exactly if the converter failed with a reason to, or
it succeeded on what its target can express and the rest of the chain passes. -/
theorem Course.conversion_passes_iff {job : Job} {stage : String} {program : Path}
    {flags : List String} {further : Progress} {rest : List Stage}
    (h : Course config (job.convertStage stage program flags further :: rest) before xs r)
    (hf : further ≠ .finished .pass) {Later : Output → List Exchange → Prop}
    (later : ∀ o xs, Course config rest o.stdout xs r → (r = .ok .pass ↔ Later o xs)) :
    r = .ok .pass ↔
      ∃ converted, Ran xs 0 (config.prepare (job.convertCall program flags)) converted ∧
        ¬ config.Violated converted ∧
        (converted.exitCode ≠ 0 ∧ (job.tool.Unsupported job.input.source ∨
            job.input.expectations.generatorStatus ≠ 0) ∨
          converted.exitCode = 0 ∧ ¬ job.tool.Unsupported job.input.source ∧
            further = .proceed ∧ Later converted xs.tail) := by
  rw [h.eq_ok_iff .pass later]
  refine exists_congr fun converted => and_congr_right fun _ => ?_
  refine (or_congr (Job.convertStage_eq_pass_iff hf)
    (and_congr_left' Job.convertStage_eq_proceed_iff)).trans ?_
  constructor
  · rintro (⟨hv, he, hr⟩ | ⟨⟨he, hu, hfurther⟩, hlater⟩)
    · exact ⟨hv, .inl ⟨he, hr⟩⟩
    · exact ⟨Config.not_violated_of_success he, .inr ⟨he, hu, hfurther, hlater⟩⟩
  · rintro ⟨hv, ⟨he, hr⟩ | ⟨he, hu, hfurther, hlater⟩⟩
    · exact .inl ⟨hv, he, hr⟩
    · exact .inr ⟨⟨he, hu, hfurther⟩, hlater⟩

/-- A chain that begins with a converter fails if that succeeds on what its target cannot
express. -/
theorem Course.conversion_fails {job : Job} {stage : String} {program : Path}
    {flags : List String} {further : Progress} {rest : List Stage} {converted : Output}
    (h : Course config (job.convertStage stage program flags further :: rest) before xs r)
    (ran : Ran xs 0 (config.prepare (job.convertCall program flags)) converted)
    (he : converted.exitCode = 0) (hu : job.tool.Unsupported job.input.source) :
    ∃ headline, r = .ok (.failed .toolInvocation headline converted) := by
  obtain ⟨headline, hfail⟩ := Job.convertStage_of_unsupported he hu
  refine ⟨headline, (h.eq_ok_iff _ fun _ _ _ => Iff.rfl).mpr ⟨converted, ran, .inl hfail⟩⟩

end Conformance
