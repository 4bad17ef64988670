import Conformance.Proofs.ConverterVerdict

/-!
# When a memory violation is reported

The memory checker watches the first run of a job, that of the generator or of the converter, if it
is there. The status by which it reports a violation settles the verdict, whatever else is expected
of the job. Anywhere else that status is an exit status like any other, and a violation that the
runner claims by itself counts for nothing.

## Main definitions

* `Verdict.IsViolation`, `Progress.IsViolation`: a failure for a memory violation
* `Job.watched?`: the run of a job that the memory checker watches

## Main results

* `Job.marked_of_isViolation`: a stage reports a violation only for an output marked with one
* `Job.stages_of_model`: the watched run comes first, and its stage reports every marked output
* `Job.interpret_eq`: only an output of the watched run can be marked
* `Job.memory_violation_iff`: a job reports a violation exactly if the memory checker does
-/

namespace Conformance

/-- The verdict is a failure for a memory violation. -/
def Verdict.IsViolation (v : Verdict) : Prop :=
  ∃ diagnostic, v = .fail .memorySafetyViolation diagnostic

namespace Verdict

@[simp] theorem isViolation_failed (kind : FailureKind) (headline : String) (o : Output) :
    (failed kind headline o).IsViolation ↔ kind = .memorySafetyViolation := by
  simp [IsViolation, failed]

@[simp] theorem isViolation_memoryViolation (stage : String) (o : Output) :
    (memoryViolation stage o).IsViolation := by
  simp [memoryViolation]

@[simp] theorem not_isViolation_unexpectedStatus (stage : String) (o : Output) :
    ¬ (unexpectedStatus stage o).IsViolation := by
  simp [unexpectedStatus]

@[simp] theorem not_isViolation_pass : ¬ pass.IsViolation := by
  simp [IsViolation]

@[simp] theorem not_isViolation_skip (reason : String) : ¬ (skip reason).IsViolation := by
  simp [IsViolation]

end Verdict

/-- The stage settles the verdict, as a failure for a memory violation. -/
def Progress.IsViolation (p : Progress) : Prop :=
  ∃ v, p = .finished v ∧ v.IsViolation

namespace Progress

@[simp] theorem isViolation_finished (v : Verdict) : (finished v).IsViolation ↔ v.IsViolation := by
  simp [IsViolation]

@[simp] theorem not_isViolation_proceed : ¬ proceed.IsViolation := by
  simp [IsViolation]

theorem isViolation_and (p q : Progress) :
    (p.and q).IsViolation ↔ p.IsViolation ∨ p = .proceed ∧ q.IsViolation := by
  cases p <;> simp

end Progress

/-! ## The rules -/

variable {stage : String} {o : Output} {expected : Int32} {mayFail : Bool}
  {unsupported : Option String}

/-- The failure of a stage is a violation exactly if its output is marked with one. -/
theorem checkStatus_isViolation_iff {v : Verdict} (h : checkStatus stage o expected = some v) :
    v.IsViolation ↔ o.memoryViolation = true := by
  unfold checkStatus at h
  split_ifs at h with hm he <;> obtain rfl := Option.some.inj h <;> simp [hm]

theorem checkExit_isViolation_iff :
    (checkExit stage o expected).IsViolation ↔ o.memoryViolation = true := by
  unfold checkExit
  cases h : checkStatus stage o expected with
  | some failure => simp [checkStatus_isViolation_iff h]
  | none =>
    have hm := (checkStatus_eq_none_iff.mp h).1
    by_cases he : expected = 0 <;> simp [hm, he]

/-- A converter is judged by its memory first, whatever it may or should do otherwise. -/
theorem checkConversion_isViolation_iff :
    (checkConversion stage o mayFail unsupported).IsViolation ↔ o.memoryViolation = true := by
  unfold checkConversion
  cases unsupported <;> split_ifs with hm <;> simp [hm]

theorem not_isViolation_needs (available : Bool) (reason : String) :
    ¬ (needs available reason).IsViolation := by
  cases available <;> simp [needs]

theorem not_isViolation_checkValidation (headline : String) (o : Output) :
    ¬ (checkValidation headline o).IsViolation := by
  unfold checkValidation
  split_ifs <;> simp

theorem not_isViolation_classifyExecutable (o : Output) : ¬ (classifyExecutable o).IsViolation := by
  unfold classifyExecutable
  split_ifs <;> simp

namespace Job

variable {job : Job} {config : Config} {scratch : Path} {s : Stage} {n : Nat}

theorem checkedAs_isViolation_iff {v : Variant} :
    (job.checkedAs config v o).IsViolation ↔ o.memoryViolation = true := by
  unfold checkedAs
  cases h : checkStatus "checker" o job.input.expectations.checkerStatus with
  | some failure => simp [checkStatus_isViolation_iff h]
  | none =>
    have hm := (checkStatus_eq_none_iff.mp h).1
    cases hp : job.outputMismatch? o with
    | some failure =>
      have hfailure : ¬ failure.IsViolation := by
        unfold outputMismatch? at hp
        split at hp
        · contradiction
        · split_ifs at hp
          obtain rfl := Option.some.inj hp
          simp
      simp [hm, hfailure]
    | none => split_ifs <;> simp [hm, not_isViolation_needs]

/-! ## The stages -/

theorem convertStage_isViolation_iff {program : Path} {flags : List String} {further : Progress}
    (hf : ¬ further.IsViolation) :
    ((job.convertStage stage program flags further).check o).IsViolation ↔
      o.memoryViolation = true := by
  rw [convertStage, Progress.isViolation_and, checkConversion_isViolation_iff]
  simp [hf]

/-- No stage reports a violation for an output that is not marked with one. -/
theorem marked_of_isViolation (hs : s ∈ job.stages config scratch) (h : (s.check o).IsViolation) :
    o.memoryViolation = true := by
  revert s
  unfold stages
  cases job.tool with
  | executable => simp [executableStages, not_isViolation_classifyExecutable]
  | checker v =>
    simp [checkerStages, checkExit_isViolation_iff, checkedAs_isViolation_iff,
      not_isViolation_checkValidation]
  | murphi2c =>
    simp [sourceStages, convertStage_isViolation_iff, checkExit_isViolation_iff]
  | murphi2cHeader =>
    simp [headerStages, convertStage_isViolation_iff, checkExit_isViolation_iff]
  | murphi2uclid =>
    simp [uclidStages, convertStage_isViolation_iff, not_isViolation_needs,
      not_isViolation_checkValidation]
  | murphi2xml =>
    simp [xmlStages, convertStage_isViolation_iff, not_isViolation_needs,
      not_isViolation_checkValidation]

/-- The run of a job that the memory checker watches, if it is there: that of the generator or of
the converter. A test program is not watched. -/
def watched? (job : Job) (config : Config) (scratch : Path) : Option Invocation :=
  match job.tool with
  | .executable => none
  | .checker v => some (job.generate config v (Path.join scratch "model.c"))
  | tool => (tool.converter? config.toolchain).map fun (program, flags) =>
      job.convertCall program flags

/-- The chain of a model begins with the run that is watched, and its first stage reports a
violation for every output that is marked with one. -/
theorem stages_of_model (job : Job) (config : Config) (scratch : Path)
    (h : job.tool ≠ .executable) :
    ∃ s rest call, job.stages config scratch = s :: rest ∧
      job.watched? config scratch = some call ∧ (∀ before, s.call before = call) ∧
      ∀ o : Output, o.memoryViolation = true → (s.check o).IsViolation := by
  unfold stages watched?
  cases htool : job.tool with
  | executable => exact absurd htool h
  | checker v => exact ⟨_, _, _, rfl, rfl, fun _ => rfl, fun _ => checkExit_isViolation_iff.mpr⟩
  | murphi2c | murphi2cHeader =>
    exact ⟨_, _, _, rfl, rfl, fun _ => rfl, fun _ =>
      (convertStage_isViolation_iff Progress.not_isViolation_proceed).mpr⟩
  | murphi2uclid | murphi2xml =>
    exact ⟨_, _, _, rfl, rfl, fun _ => rfl, fun _ =>
      (convertStage_isViolation_iff (not_isViolation_needs _ _)).mpr⟩

/-- Only the first stage of a model is instrumented. -/
theorem map_instrument_stages (job : Job) (config : Config) (scratch : Path) (before : String) :
    (job.stages config scratch).map (fun s => (s.call before).instrument) =
      decide (job.tool ≠ .executable) ::
        List.replicate ((job.stages config scratch).length - 1) false := by
  unfold stages
  cases job.tool <;> rfl

theorem instrument_eq (hs : (job.stages config scratch)[n]? = some s) (before : String) :
    (s.call before).instrument = decide (n = 0 ∧ job.tool ≠ .executable) := by
  have hn : ((job.stages config scratch).map fun s => (s.call before).instrument)[n]? =
      some (s.call before).instrument := by
    rw [List.getElem?_map, hs, Option.map_some]
  rw [map_instrument_stages] at hn
  cases n with
  | zero => simpa using hn.symm
  | succ n =>
    rw [List.getElem?_cons_succ, List.getElem?_replicate] at hn
    split at hn
    · simpa using hn.symm
    · contradiction

/-- **What the rule of a stage is given**: the output of the process, with its exit status as it is,
and marked with a violation exactly if it comes from the watched run and has the status by which the
memory checker reports one. -/
theorem interpret_eq (hs : (job.stages config scratch)[n]? = some s) (before : String)
    (o : Output) :
    config.interpret (s.call before) o =
      { o with memoryViolation := decide (n = 0 ∧ job.tool ≠ .executable ∧
          config.hasValgrind = true ∧ o.exitCode = 42) } := by
  have hmark : (config.wraps (s.call before) && o.exitCode == violationStatus) =
      decide (n = 0 ∧ job.tool ≠ .executable ∧ config.hasValgrind = true ∧ o.exitCode = 42) := by
    rw [Config.wraps, instrument_eq hs before, violationStatus, Bool.eq_iff_iff]
    simp [and_assoc]
  rw [Config.interpret, hmark]

/-! ## The performance -/

section Course

variable {xs : List Exchange} {r : Except Fault Verdict} {v : Verdict}

/-- A violation is that of the watched run, and no other process was run. -/
theorem watched_of_isViolation (h : Course config (job.stages config scratch) "" xs r)
    (hr : r = .ok v) (hv : v.IsViolation) :
    job.tool ≠ .executable ∧ config.hasValgrind = true ∧ xs.length = 1 ∧
      ∃ call o, job.watched? config scratch = some call ∧ Ran xs 0 (config.prepare call) o ∧
        o.exitCode = 42 := by
  have hpass : v ≠ .pass := by
    rintro rfl
    exact Verdict.not_isViolation_pass hv
  obtain ⟨n, s, x, o, hs, hx, hlen, ho, hcheck⟩ := h.settled_by_last hr hpass
  -- the rule of the last stage was given a marked output, and only the first can be
  have hmarked := marked_of_isViolation (List.mem_of_getElem? hs) ⟨v, hcheck, hv⟩
  rw [interpret_eq hs] at hmarked
  obtain ⟨rfl, htool, hvalgrind, hcode⟩ := of_decide_eq_true hmarked
  obtain ⟨first, rest, call, hstages, hwatched, hcall, -⟩ :=
    stages_of_model job config scratch htool
  obtain ⟨t, ht, hxcall⟩ := h.call_eq hx
  rw [hstages, List.getElem?_cons_zero, Option.some.injEq] at ht
  rw [← ht, hcall] at hxcall
  exact ⟨htool, hvalgrind, hlen, call, o, hwatched, ⟨x, hx, hxcall, ho⟩, hcode⟩

/-- The status of a violation settles the verdict, if the memory checker is there. -/
theorem isViolation_of_watched (h : Course config (job.stages config scratch) "" xs r)
    (htool : job.tool ≠ .executable) (hvalgrind : config.hasValgrind = true) {call : Invocation}
    {o : Output} (ran : Ran xs 0 call o) (hcode : o.exitCode = 42) :
    ∃ v, r = .ok v ∧ v.IsViolation := by
  obtain ⟨first, rest, -, hstages, -, -, hreports⟩ := stages_of_model job config scratch htool
  have hfirst : (job.stages config scratch)[0]? = some first := by
    rw [hstages, List.getElem?_cons_zero]
  have hmarked : (config.interpret (first.call "") o).memoryViolation = true := by
    rw [interpret_eq hfirst]
    exact decide_eq_true ⟨rfl, htool, hvalgrind, hcode⟩
  obtain ⟨v, hcheck, hv⟩ := hreports _ hmarked
  rw [hstages] at h
  exact ⟨v, (h.settled_at rfl ran hcheck).1, hv⟩

end Course

variable {σ : Type}

/-- **A job reports a memory violation exactly if the memory checker does**: the job is that of a
model and is not skipped, the memory checker is there, and the generator or the converter, which is
run first, ends with the status of a violation, whatever else is expected of it and whatever the
runner says of violations itself. Then nothing else is run. The rule of a stage is given no other
output as a violation, but with its exit status as it is. -/
theorem memory_violation_iff (runner : Runner σ) (config : Config) (job : Job) (w : World σ) :
    let p := job.perform runner config w
    ((∃ diagnostic, p.result = .ok (.fail .memorySafetyViolation diagnostic)) ↔
      job.tool ≠ .executable ∧ job.input.expectations.skipReason = none ∧
        config.hasValgrind = true ∧
        ∃ call o, job.watched? config w.scratchPath = some call ∧
          Ran p.exchanges 0 (config.prepare call) o ∧ o.exitCode = 42) ∧
      ((∃ diagnostic, p.result = .ok (.fail .memorySafetyViolation diagnostic)) →
        p.exchanges.length = 1) ∧
      ∀ n s, (job.stages config w.scratchPath)[n]? = some s → ∀ before o,
        config.interpret (s.call before) o =
          { o with memoryViolation := decide (n = 0 ∧ job.tool ≠ .executable ∧
              config.hasValgrind = true ∧ o.exitCode = 42) } := by
  intro p
  refine ⟨?_, ?_, fun n s hs before o => interpret_eq hs before o⟩
  · rcases job.perform_cases runner config w with ⟨hrun, hcourse⟩ | ⟨reason, -, hskip, hperform⟩
    · constructor
      · rintro ⟨diagnostic, hr⟩
        obtain ⟨htool, hvalgrind, -, hran⟩ := watched_of_isViolation hcourse hr ⟨diagnostic, rfl⟩
        exact ⟨htool, hrun.resolve_left htool, hvalgrind, hran⟩
      · rintro ⟨htool, -, hvalgrind, call, o, -, hran, hcode⟩
        obtain ⟨_, hr, diagnostic, rfl⟩ := isViolation_of_watched hcourse htool hvalgrind hran hcode
        exact ⟨diagnostic, hr⟩
    · refine iff_of_false ?_ ?_
      · rintro ⟨diagnostic, hr⟩
        simp [p, hperform] at hr
      · rintro ⟨-, hnone, -⟩
        rw [hskip] at hnone
        contradiction
  · rintro ⟨diagnostic, hr⟩
    rcases job.perform_cases runner config w with ⟨-, hcourse⟩ | ⟨reason, -, -, hperform⟩
    · exact (watched_of_isViolation hcourse hr ⟨diagnostic, rfl⟩).2.2.1
    · simp [p, hperform] at hr

/-- A generator that should end with the status of a violation is no exception. -/
example :
    (((Job.bare (.checker ⟨false, false, false, .text⟩)).expecting
        { generatorStatus := 42 }).perform Runner.ofAnswers { Config.bare with hasValgrind := true }
      (World.answering [.ok { exitCode := 42, stderr := "leak" }])).result =
      .ok (.fail .memorySafetyViolation "memory leak in rumur:\nleak") := by
  rfl

end Job

end Conformance
