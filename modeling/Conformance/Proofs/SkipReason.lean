import Conformance.Proofs.MemoryViolation
import Conformance.Proofs.StageOrder
import Conformance.Proofs.Text.Trim

/-!
# When a job is skipped

A job is skipped for a reason that somebody states: a test program by its exit status, the
directives of a model before anything is run, or the harness for want of a validator when everything
else is settled. No failure is ever taken for a skip.

## Main definitions

* `Job.SkippedFor`: the reasons for which a job is skipped, one constructor for each

## Main results

* `Job.skipped_iff`: a job is skipped for exactly these reasons
-/

namespace Conformance

/-! ## The rules -/

@[simp] theorem Verdict.failed_ne_skip (kind : FailureKind) (headline reason : String)
    (o : Output) : failed kind headline o ≠ skip reason := nofun

@[simp] theorem Verdict.memoryViolation_ne_skip (stage reason : String) (o : Output) :
    memoryViolation stage o ≠ skip reason := nofun

@[simp] theorem Verdict.unexpectedStatus_ne_skip (stage reason : String) (o : Output) :
    unexpectedStatus stage o ≠ skip reason := nofun

section Rules

variable {stage headline reason : String} {o : Output} {expected : Int32}

theorem checkStatus_ne_skip : checkStatus stage o expected ≠ some (.skip reason) := by
  unfold checkStatus
  split_ifs <;> simp

/-- No exit status of a stage skips the job. -/
@[simp] theorem checkExit_ne_skip : checkExit stage o expected ≠ .finished (.skip reason) := by
  unfold checkExit
  cases h : checkStatus stage o expected with
  | some failure =>
    intro hskip
    rw [Progress.finished.inj hskip] at h
    exact checkStatus_ne_skip h
  | none => split_ifs <;> simp

@[simp] theorem checkConversion_ne_skip {mayFail : Bool} {unsupported : Option String} :
    checkConversion stage o mayFail unsupported ≠ .finished (.skip reason) := by
  unfold checkConversion
  cases unsupported <;> split_ifs <;> simp

@[simp] theorem checkValidation_ne_skip : checkValidation headline o ≠ .skip reason := by
  unfold checkValidation
  split_ifs <;> simp

theorem needs_eq_skip_iff {available : Bool} {lack : String} :
    needs available lack = .finished (.skip reason) ↔ available = false ∧ reason = lack := by
  cases available <;> simp [needs, eq_comm]

theorem classifyExecutable_eq_skip_iff :
    classifyExecutable o = .skip reason ↔
      o.exitCode = 125 ∧ Text.Trims (o.stdout ++ o.stderr).toList reason.toList := by
  have htrim : String.ofList (Text.trim o.combined.toList) = reason ↔
      Text.Trims (o.stdout ++ o.stderr).toList reason.toList := by
    rw [← Text.trim_eq_iff, ← String.toList_inj, String.toList_ofList]
    rfl
  unfold classifyExecutable
  split_ifs with hpass hskip
  · simp [hpass]
  · rw [Verdict.skip.injEq, htrim]
    exact (and_iff_right hskip).symm
  · refine iff_of_false ?_ fun h => hskip h.1
    exact Verdict.failed_ne_skip _ _ _ _

end Rules

namespace Job

variable {job : Job} {config : Config} {v : Variant} {o : Output} {reason : String}

theorem outputMismatch?_ne_skip : job.outputMismatch? o ≠ some (.skip reason) := by
  unfold outputMismatch?
  split
  · simp
  · split_ifs <;> simp

/-- A compiled checker skips the job exactly if its output is as expected and should be validated,
and the validator is missing. -/
theorem checkedAs_eq_skip_iff (hm : o.memoryViolation = false) :
    job.checkedAs config v o = .finished (.skip reason) ↔
      job.ChecksOut o ∧ job.wantsValidation v = true ∧ config.hasXmllint = false ∧
        reason = "xmllint not available" := by
  by_cases h : job.ChecksOut o
  · rw [checkedAs_of_checksOut hm h]
    by_cases hw : job.wantsValidation v = true <;> simp [h, hw, needs_eq_skip_iff]
  · refine iff_of_false (fun hskip => ?_) fun h' => h h'.1
    unfold checkedAs at hskip
    cases hs : checkStatus "checker" o job.input.expectations.checkerStatus with
    | some failure =>
      simp only [hs, Progress.finished.injEq] at hskip
      exact checkStatus_ne_skip (hskip ▸ hs)
    | none =>
      cases hp : job.outputMismatch? o with
      | some failure =>
        simp only [hs, hp, Progress.finished.injEq] at hskip
        exact outputMismatch?_ne_skip (hskip ▸ hp)
      | none => exact h ⟨(checkStatus_eq_none_iff.mp hs).2, outputMismatch?_eq_none_iff.mp hp⟩

/-- A converter skips the job exactly if it succeeded on what its target can express and what comes
next would have it skipped. -/
theorem convertStage_eq_skip_iff {stage : String} {program : Path} {flags : List String}
    {further : Progress} :
    (job.convertStage stage program flags further).check
        (config.interpret (job.convertCall program flags) o) = .finished (.skip reason) ↔
      job.Converted o ∧ further = .finished (.skip reason) := by
  rw [convertStage, Progress.and_eq_finished_iff, checkConversion_eq_proceed_iff,
    Config.interpret_memoryViolation_eq_false rfl, Tool.unsupported?_eq_none_iff]
  constructor
  · rintro (hskip | ⟨⟨-, he, hu⟩, hfurther⟩)
    · exact absurd hskip checkConversion_ne_skip
    · exact ⟨⟨he, hu⟩, hfurther⟩
  · rintro ⟨⟨he, hu⟩, hfurther⟩
    exact .inr ⟨⟨Config.not_violated_of_success he, he, hu⟩, hfurther⟩

/-! ## The reasons -/

/-- **The reasons for which a job is skipped**, along the exchanges `xs` with the runner. -/
inductive SkippedFor (job : Job) (config : Config) (scratch : Path) (xs : List Exchange)
    (reason : String) : Prop
  /-- A test program asks for it, and says why on its streams. -/
  | asked {o : Output} (tool : job.tool = .executable)
    (ran : Ran xs 0 { program := job.input.path } o) (status : o.exitCode = 125)
    (stated : Text.Trims (o.stdout ++ o.stderr).toList reason.toList)
  /-- The directives of a model ask for it. -/
  | declared (tool : job.tool ≠ .executable)
    (stated : job.input.expectations.skipReason = some reason)
  /-- The checker did as it should and printed XML that nothing can validate. -/
  | checkerUnvalidated {v : Variant} {generated compiled checked : Output}
    (tool : job.tool = .checker v) (undeclared : job.input.expectations.skipReason = none)
    (xml : v.format = .machineReadable)
    (pure : ¬ Text.HasWord job.input.source.toList "put".toList)
    (missing : config.hasXmllint = false)
    (generator : job.input.expectations.generatorStatus = 0)
    (compiler : job.input.expectations.compilerStatus = 0)
    (generates : Ran xs 0 (config.prepare (job.generate config v (Path.join scratch "model.c")))
      generated ∧ generated.exitCode = 0)
    (compiles : Ran xs 1 (job.compileChecker config v (Path.join scratch "model.c")
      (Path.join scratch "model.exe")) compiled ∧ compiled.exitCode = 0)
    (checks : Ran xs 2 { program := Path.join scratch "model.exe" } checked ∧
      checked.exitCode = job.input.expectations.checkerStatus ∧
      ∀ p ∈ job.input.expectations.checkerOutput, p.foundIn checked.stdout = true)
    (stated : reason = "xmllint not available")
  /-- The model was converted to Uclid5 and nothing can verify it. -/
  | unverified {converted : Output} (tool : job.tool = .murphi2uclid)
    (undeclared : job.input.expectations.skipReason = none) (missing : config.hasUclid = false)
    (expressible : '%' ∉ job.input.source.toList)
    (converts : Ran xs 0 (config.prepare (job.convertCall config.toolchain.murphi2uclid []))
      converted ∧ converted.exitCode = 0)
    (stated : reason = "uclid not available for validation")
  /-- The model was converted to XML and nothing can validate it. -/
  | unvalidated {converted : Output} (tool : job.tool = .murphi2xml)
    (undeclared : job.input.expectations.skipReason = none) (missing : config.hasXmllint = false)
    (converts : Ran xs 0 (config.prepare (job.convertCall config.toolchain.murphi2xml []))
      converted ∧ converted.exitCode = 0)
    (stated : reason = "xmllint not available for validation")

end Job

/-! ## The chains -/

section Chains

variable {job : Job} {config : Config} {v : Variant} {scratch : Path} {before reason : String}
  {xs : List Exchange} {r : Except Fault Verdict}

/-- The stage does not skip the job, whatever its process leaves behind. -/
def Stage.NeverSkips (s : Stage) : Prop :=
  ∀ o reason, s.check o ≠ .finished (.skip reason)

/-- A chain skips the job only by one of its stages. -/
theorem Course.ne_skip {stages : List Stage} (h : Course config stages before xs r)
    (never : ∀ s ∈ stages, s.NeverSkips) : r ≠ .ok (.skip reason) := by
  intro hr
  obtain ⟨n, s, x, o, hs, -, -, -, hcheck⟩ := h.settled_by_last hr nofun
  exact never s (List.mem_of_getElem? hs) _ reason hcheck

theorem Stage.neverSkips_of_checkExit {file? : Option String} {call : String → Invocation}
    {stage : String} {expected : Int32} :
    Stage.NeverSkips ⟨file?, call, fun o => checkExit stage o expected⟩ :=
  fun _ _ => checkExit_ne_skip

theorem Stage.neverSkips_of_checkValidation {file? : Option String} {call : String → Invocation}
    {headline : String} :
    Stage.NeverSkips ⟨file?, call, fun o => .finished (checkValidation headline o)⟩ :=
  fun _ _ hskip => checkValidation_ne_skip (Progress.finished.inj hskip)

/-- A converter whose output is always gone on with never skips the job. -/
theorem Stage.neverSkips_of_convertStage {stage : String} {program : Path} {flags : List String} :
    (job.convertStage stage program flags .proceed).NeverSkips := by
  intro o reason hskip
  rcases (Progress.and_eq_finished_iff _ _ _).mp hskip with hskip | ⟨-, hskip⟩
  · exact checkConversion_ne_skip hskip
  · contradiction

/-- A chain that begins with a converter, and of which nothing else skips the job. -/
theorem Course.conversion_skips_iff {stage : String} {program : Path} {flags : List String}
    {further : Progress} {rest : List Stage}
    (h : Course config (job.convertStage stage program flags further :: rest) before xs r)
    (never : ∀ s ∈ rest, s.NeverSkips) :
    r = .ok (.skip reason) ↔
      ∃ converted, Ran xs 0 (config.prepare (job.convertCall program flags)) converted ∧
        job.Converted converted ∧ further = .finished (.skip reason) := by
  have hlater : ∀ (o : Output) (xs : List Exchange), Course config rest o.stdout xs r →
      (r = .ok (.skip reason) ↔ False) := fun o xs h => iff_of_false (h.ne_skip never) id
  rw [h.eq_ok_iff (.skip reason) hlater]
  refine exists_congr fun converted => and_congr_right fun _ => ?_
  rw [and_false, or_false]
  exact Job.convertStage_eq_skip_iff

/-- A test program alone skips its job. -/
theorem Course.executable_skips_iff (h : Course config job.executableStages before xs r) :
    r = .ok (.skip reason) ↔ ∃ o, Ran xs 0 { program := job.input.path } o ∧ o.exitCode = 125 ∧
      Text.Trims (o.stdout ++ o.stderr).toList reason.toList := by
  rw [h.eq_ok_iff_of_not_instrument rfl (.skip reason) fun _ _ h => h.eq_ok_iff_of_nil _]
  refine exists_congr fun o => and_congr_right fun _ => ?_
  simp only [Progress.finished.injEq, classifyExecutable_eq_skip_iff, reduceCtorEq, and_false,
    or_false]
  rfl

/-- The chain of a checker: the generator and the compiler cannot skip the job. -/
theorem Course.checker_skips_iff
    (h : Course config (job.checkerStages config v scratch) before xs r) :
    r = .ok (.skip reason) ↔
      ∃ generated, Ran xs 0 (config.prepare (job.generate config v (Path.join scratch "model.c")))
          generated ∧ (generated.exitCode = 0 ∧ job.input.expectations.generatorStatus = 0) ∧
        ∃ compiled, Ran xs 1 (job.compileChecker config v (Path.join scratch "model.c")
            (Path.join scratch "model.exe")) compiled ∧
          (compiled.exitCode = 0 ∧ job.input.expectations.compilerStatus = 0) ∧
          ∃ checked, Ran xs 2 { program := Path.join scratch "model.exe" } checked ∧
            job.ChecksOut checked ∧ job.wantsValidation v = true ∧ config.hasXmllint = false ∧
            reason = "xmllint not available" := by
  rw [h.eq_ok_iff (.skip reason) fun _ xs h =>
    h.eq_ok_iff_of_not_instrument rfl (.skip reason) fun _ xs h =>
      h.eq_ok_iff_of_not_instrument rfl (.skip reason) fun _ xs h =>
        iff_of_false (h.ne_skip ?_) id]
  · simp only [ran_tail, Job.generate_eq_proceed_iff, Job.checkExit_unwatched_eq_proceed_iff,
      Job.checkedAs_eq_skip_iff (Output.unwatched_memoryViolation _), checkExit_ne_skip, false_or,
      and_false, or_false]
    rfl
  · exact List.forall_mem_singleton.mpr Stage.neverSkips_of_checkValidation

end Chains

/-! ## The performance -/

namespace Job

variable {σ : Type}

variable {job : Job} {config : Config} {scratch : Path} {xs : List Exchange}
  {r : Except Fault Verdict} {reason : String}

/-- A course that ends with a skip has one of the reasons for it. -/
theorem skippedFor_of_course
    (hrun : job.tool = .executable ∨ job.input.expectations.skipReason = none)
    (h : Course config (job.stages config scratch) "" xs r) (hr : r = .ok (.skip reason)) :
    job.SkippedFor config scratch xs reason := by
  unfold stages at h
  cases htool : job.tool with
  | executable =>
    rw [htool] at h
    obtain ⟨o, ran, status, stated⟩ := h.executable_skips_iff.mp hr
    exact .asked htool ran status stated
  | checker v =>
    rw [htool] at h
    have undeclared := hrun.resolve_left (by simp [htool])
    obtain ⟨generated, hg, ⟨hg0, hgs⟩, compiled, hc, ⟨hc0, hcs⟩, checked, hk, ⟨hk0, hp⟩, hw, hx,
      stated⟩ := h.checker_skips_iff.mp hr
    obtain ⟨xml, pure⟩ := wantsValidation_iff.mp hw
    exact .checkerUnvalidated htool undeclared xml pure hx hgs hcs ⟨hg, hg0⟩ ⟨hc, hc0⟩
      ⟨hk, hk0, hp⟩ stated
  | murphi2c =>
    -- neither the conversion to C nor that to a header has a stage that skips
    rw [htool] at h
    refine absurd hr (h.ne_skip ?_)
    simp [sourceStages, Stage.neverSkips_of_convertStage, Stage.neverSkips_of_checkExit]
  | murphi2cHeader =>
    rw [htool] at h
    refine absurd hr (h.ne_skip ?_)
    simp [headerStages, Stage.neverSkips_of_convertStage, Stage.neverSkips_of_checkExit]
  | murphi2uclid =>
    rw [htool] at h
    have undeclared := hrun.resolve_left (by simp [htool])
    obtain ⟨converted, ran, ⟨success, expressible⟩, hneeds⟩ := (h.conversion_skips_iff
      (List.forall_mem_singleton.mpr Stage.neverSkips_of_checkValidation)).mp hr
    obtain ⟨missing, stated⟩ := needs_eq_skip_iff.mp hneeds
    rw [htool] at expressible
    exact .unverified htool undeclared missing expressible ⟨ran, success⟩ stated
  | murphi2xml =>
    rw [htool] at h
    have undeclared := hrun.resolve_left (by simp [htool])
    obtain ⟨converted, ran, ⟨success, -⟩, hneeds⟩ := (h.conversion_skips_iff
      (List.forall_mem_singleton.mpr Stage.neverSkips_of_checkValidation)).mp hr
    obtain ⟨missing, stated⟩ := needs_eq_skip_iff.mp hneeds
    exact .unvalidated htool undeclared missing ⟨ran, success⟩ stated

/-- Each of the reasons ends a course with a skip. -/
theorem SkippedFor.course_eq (hskip : job.SkippedFor config scratch xs reason)
    (hrun : job.tool = .executable ∨ job.input.expectations.skipReason = none)
    (h : Course config (job.stages config scratch) "" xs r) : r = .ok (.skip reason) := by
  unfold stages at h
  cases hskip with
  | asked tool ran status stated =>
    rw [tool] at h
    exact h.executable_skips_iff.mpr ⟨_, ran, status, stated⟩
  | declared tool stated =>
    rw [stated] at hrun
    exact absurd (hrun.resolve_left tool) nofun
  | checkerUnvalidated tool _ xml pure missing generator compiler generates compiles checks
      stated =>
    rw [tool] at h
    exact h.checker_skips_iff.mpr ⟨_, generates.1, ⟨generates.2, generator⟩, _, compiles.1,
      ⟨compiles.2, compiler⟩, _, checks.1, checks.2, wantsValidation_iff.mpr ⟨xml, pure⟩, missing,
      stated⟩
  | unverified tool _ missing expressible converts stated =>
    rw [tool] at h
    refine (h.conversion_skips_iff
      (List.forall_mem_singleton.mpr Stage.neverSkips_of_checkValidation)).mpr ?_
    refine ⟨_, converts.1, ⟨converts.2, ?_⟩, needs_eq_skip_iff.mpr ⟨missing, stated⟩⟩
    rw [tool]
    exact expressible
  | unvalidated tool _ missing converts stated =>
    rw [tool] at h
    refine (h.conversion_skips_iff
      (List.forall_mem_singleton.mpr Stage.neverSkips_of_checkValidation)).mpr ?_
    refine ⟨_, converts.1, ⟨converts.2, ?_⟩, needs_eq_skip_iff.mpr ⟨missing, stated⟩⟩
    rw [tool]
    exact not_false

/-- **A job is skipped for exactly the reasons that are stated**, whatever the runner does. A model
whose directives ask for it is skipped before anything is run. -/
theorem skipped_iff (runner : Runner σ) (config : Config) (job : Job) (w : World σ) :
    let p := job.perform runner config w
    (∀ reason, p.result = .ok (.skip reason) ↔
      job.SkippedFor config w.scratchPath p.exchanges reason) ∧
    ∀ reason, job.tool ≠ .executable → job.input.expectations.skipReason = some reason →
      p = ⟨.ok (.skip reason), [], w⟩ := by
  intro p
  refine ⟨fun reason => ?_, fun reason htool hreason =>
    perform_of_declared runner config w htool hreason⟩
  rcases job.perform_cases runner config w with
    ⟨hrun, h⟩ | ⟨declared, htool, hdeclared, hperform⟩
  · exact ⟨skippedFor_of_course hrun h, fun hskip => hskip.course_eq hrun h⟩
  · -- the directives have the only word, and no other reason stands beside theirs
    simp only [p, hperform, Except.ok.injEq, Verdict.skip.injEq]
    constructor
    · rintro rfl
      exact .declared htool hdeclared
    · intro hskip
      cases hskip with
      | asked tool => exact absurd tool htool
      | declared _ stated => exact Option.some.inj (hdeclared.symm.trans stated)
      | checkerUnvalidated _ undeclared | unverified _ undeclared | unvalidated _ undeclared =>
        exact nomatch undeclared.symm.trans hdeclared

end Job

end Conformance
