import Conformance.Proofs.Course
import Conformance.Proofs.Verdict
import Conformance.Proofs.Text.WholeWord

/-!
# Jobs as chains of stages

The procedure of every job is a chain of stages, so that a performance of the job is a course of its
chain.

## Main definitions

* `Job.stages`: the chain of a job

## Main results

* `Job.procedure_eq_chain`: the procedure of a job is that of its chain
* `Job.course_of_undeclared`: a performance of a job that its directives do not skip is a course of
  its chain
* `Job.perform_of_declared`: a model that is to be skipped is skipped and nothing is run
-/

namespace Conformance

/-- What the output of one rule leaves open is settled by another. -/
def Progress.and (p q : Progress) : Progress :=
  match p with
  | .proceed => q
  | .finished verdict => .finished verdict

@[simp] theorem Progress.proceed_and (q : Progress) : Progress.proceed.and q = q := rfl

@[simp] theorem Progress.finished_and (v : Verdict) (q : Progress) :
    (Progress.finished v).and q = .finished v := rfl

theorem Progress.and_eq_proceed_iff (p q : Progress) :
    p.and q = .proceed ↔ p = .proceed ∧ q = .proceed := by
  cases p <;> simp

theorem Progress.and_eq_finished_iff (p q : Progress) (v : Verdict) :
    p.and q = .finished v ↔ p = .finished v ∨ p = .proceed ∧ q = .finished v := by
  cases p <;> simp

/-- A tool that a job needs to go on; without it the job is skipped. -/
def needs (available : Bool) (reason : String) : Progress :=
  if available then .proceed else .finished (.skip reason)

theorem needs_eq_proceed_iff {available : Bool} {reason : String} :
    needs available reason = .proceed ↔ available = true := by
  cases available <;> simp [needs]

@[simp] theorem needs_ne_pass (available : Bool) (reason : String) :
    needs available reason ≠ .finished .pass := by
  cases available <;> simp [needs]

theorem checkValidation_eq_pass_iff {headline : String} {o : Output} :
    checkValidation headline o = .pass ↔ o.exitCode = 0 := by
  unfold checkValidation
  split_ifs with he <;> simp [he]

namespace Job

/-! ## The chains -/

/-- The rule for a compiled checker, with which its job may end early. -/
def checkedAs (job : Job) (config : Config) (v : Variant) (o : Output) : Progress :=
  match checkStatus "checker" o job.input.expectations.checkerStatus with
  | some failure => .finished failure
  | none =>
    match job.outputMismatch? o with
    | some failure => .finished failure
    | none =>
      if job.wantsValidation v then needs config.hasXmllint "xmllint not available"
      else .finished .pass

/-- The chain of a checker. -/
def checkerStages (job : Job) (config : Config) (v : Variant) (scratch : Path) : List Stage :=
  [{ call := fun _ => job.generate config v (Path.join scratch "model.c")
     check := fun o => checkExit "rumur" o job.input.expectations.generatorStatus },
   { call := fun _ => job.compileChecker config v (Path.join scratch "model.c")
       (Path.join scratch "model.exe")
     check := fun o => checkExit "C compiler" o job.input.expectations.compilerStatus },
   { call := fun _ => { program := Path.join scratch "model.exe" }
     check := job.checkedAs config v },
   { call := validateXml config config.toolchain.verifierSchema
     check := fun o =>
       .finished (checkValidation "failed to XML-validate machine reachable output" o) }]

/-- The first stage of a converter, behind which the chain goes on as `further` says. -/
def convertStage (job : Job) (stage : String) (program : Path) (flags : List String)
    (further : Progress) : Stage where
  call _ := job.convertCall program flags
  check o := (checkConversion stage o (job.input.expectations.generatorStatus != 0)
    (job.tool.unsupported? job.input.source)).and further

/-- The chain of the conversion to C. -/
def sourceStages (job : Job) (config : Config) (scratch : Path) : List Stage :=
  [job.convertStage "murphi2c" config.toolchain.murphi2c [] .proceed,
   { file? := some "model.c"
     call := fun _ => compileConverted config (Path.join scratch "model.c")
       (Path.join scratch "model.o")
     check := fun o => checkExit "C compiler" o job.input.expectations.compilerStatus }]

/-- The chain of the conversion to a C header. -/
def headerStages (job : Job) (config : Config) (scratch : Path) : List Stage :=
  [job.convertStage "murphi2c --header" config.toolchain.murphi2c ["--header"] .proceed,
   { file? := some "header.h"
     call := fun _ => compileHeaderC config (Path.join scratch "header.h")
       (Path.join scratch "header-c.out")
     check := fun o => checkExit "C compiler" o 0 },
   { call := fun _ => compileHeaderCxx config (Path.join scratch "header.h")
       (Path.join scratch "header-cxx.out")
     check := fun o => checkExit "C++ compiler" o 0 }]

/-- The chain of the conversion to Uclid5. -/
def uclidStages (job : Job) (config : Config) (scratch : Path) : List Stage :=
  [job.convertStage "murphi2uclid" config.toolchain.murphi2uclid []
     (needs config.hasUclid "uclid not available for validation"),
   { file? := some "source.ucl"
     call := fun _ =>
       { program := config.toolchain.uclid, args := [Path.join scratch "source.ucl"] }
     check := fun o => .finished (checkValidation "uclid failed" o) }]

/-- The chain of the conversion to XML. -/
def xmlStages (job : Job) (config : Config) : List Stage :=
  [job.convertStage "murphi2xml" config.toolchain.murphi2xml []
     (needs config.hasXmllint "xmllint not available for validation"),
   { call := validateXml config config.toolchain.murphi2xmlSchema
     check := fun o => .finished (checkValidation "failed to validate" o) }]

/-- The chain of a test program. -/
def executableStages (job : Job) : List Stage :=
  [{ call := fun _ => { program := job.input.path }
     check := fun o => .finished (classifyExecutable o) }]

/-- The chain of a job. -/
def stages (job : Job) (config : Config) (scratch : Path) : List Stage :=
  match job.tool with
  | .executable => job.executableStages
  | .checker v => job.checkerStages config v scratch
  | .murphi2c => job.sourceStages config scratch
  | .murphi2cHeader => job.headerStages config scratch
  | .murphi2uclid => job.uclidStages config scratch
  | .murphi2xml => job.xmlStages config

end Job

/-- The job of an empty model without directives. -/
def Job.bare (tool : Tool) : Job :=
  ⟨tool.suiteName, "test_model_m", tool, ⟨"model.m", "", {}⟩⟩

/-- The job with other expectations. -/
def Job.expecting (job : Job) (e : Expectations) : Job :=
  { job with input := { job.input with expectations := e } }

/-- The configuration of a host without facts. -/
def Config.bare : Config where
  facts := []
  cc := "cc"
  cxx := "c++"
  compilerFlags := []
  hasValgrind := false
  hasXmllint := false
  hasUclid := false
  needsLibatomic := false
  cpus := 1
  toolchain := {}

/-! ## Procedures are chains -/

@[simp] theorem Progress.finished_andThen (v : Verdict) (next : Procedure Verdict) :
    (Progress.finished v).andThen next = .done v := rfl

theorem Progress.and_andThen (p q : Progress) (next : Procedure Verdict) :
    (p.and q).andThen next = p.andThen (q.andThen next) := by
  cases p <;> rfl

theorem needs_andThen (available : Bool) (reason : String) (next : Procedure Verdict) :
    (needs available reason).andThen next =
      if available = true then next else .done (.skip reason) := by
  cases available <;> rfl

namespace Job

theorem checkedAs_andThen (job : Job) (config : Config) (v : Variant) (o : Output)
    (next : Procedure Verdict) :
    (job.checkedAs config v o).andThen next =
      match checkStatus "checker" o job.input.expectations.checkerStatus with
      | some failure => .done failure
      | none =>
        match job.outputMismatch? o with
        | some failure => .done failure
        | none =>
          if job.wantsValidation v = true then
            if config.hasXmllint = true then next else .done (.skip "xmllint not available")
          else .done .pass := by
  unfold checkedAs
  split
  · rfl
  · split
    · rfl
    · split_ifs <;> simp_all [needs, Progress.andThen]

theorem checkerProcedure_eq_chain (job : Job) (config : Config) (v : Variant) (scratch : Path) :
    job.checkerProcedure config v scratch =
      Stage.chain (job.checkerStages config v scratch) "" := by
  simp only [checkerProcedure, checkerStages, Stage.chain, validateChecker,
    Progress.finished_andThen]
  -- the generator, the compiler and the checker are run alike, and then the output is looked at
  refine congrArg (Procedure.run _) (funext fun generated => congrArg (Progress.andThen _) ?_)
  refine congrArg (Procedure.run _) (funext fun compiled => congrArg (Progress.andThen _) ?_)
  refine congrArg (Procedure.run _) (funext fun checked => ?_)
  exact (job.checkedAs_andThen config v checked _).symm

theorem sourceProcedure_eq_chain (job : Job) (config : Config) (scratch : Path) :
    job.sourceProcedure config scratch = Stage.chain (job.sourceStages config scratch) "" := by
  simp only [sourceProcedure, sourceStages, convert, convertStage, Stage.chain,
    Progress.and_andThen]
  rfl

theorem headerProcedure_eq_chain (job : Job) (config : Config) (scratch : Path) :
    job.headerProcedure config scratch = Stage.chain (job.headerStages config scratch) "" := by
  simp only [headerProcedure, headerStages, convert, convertStage, Stage.chain,
    Progress.and_andThen]
  rfl

theorem uclidProcedure_eq_chain (job : Job) (config : Config) (scratch : Path) :
    job.uclidProcedure config scratch = Stage.chain (job.uclidStages config scratch) "" := by
  simp only [uclidProcedure, uclidStages, convert, convertStage, Stage.chain,
    Progress.and_andThen, needs_andThen, Progress.finished_andThen]

theorem xmlProcedure_eq_chain (job : Job) (config : Config) :
    job.xmlProcedure config = Stage.chain (job.xmlStages config) "" := by
  simp only [xmlProcedure, xmlStages, convert, convertStage, Stage.chain,
    Progress.and_andThen, needs_andThen, Progress.finished_andThen]

/-- **The procedure of a job is that of its chain.** -/
theorem procedure_eq_chain (job : Job) (config : Config) (scratch : Path) :
    job.procedure config scratch = Stage.chain (job.stages config scratch) "" := by
  unfold procedure stages
  cases job.tool with
  | executable => rfl
  | checker v => exact job.checkerProcedure_eq_chain config v scratch
  | murphi2c => exact job.sourceProcedure_eq_chain config scratch
  | murphi2cHeader => exact job.headerProcedure_eq_chain config scratch
  | murphi2uclid => exact job.uclidProcedure_eq_chain config scratch
  | murphi2xml => exact job.xmlProcedure_eq_chain config

end Job

/-- The path of the scratch directory that a job performed in this world is given. -/
def World.scratchPath {σ : Type} (w : World σ) : Path :=
  Job.placePath (Job.scratchParent ++ [w.files.freshName Job.scratchParent])

namespace Job

variable {σ : Type} {job : Job}

/-- **A performance of a job that its directives do not skip is a course of its chain.** A test
program has no directives. -/
theorem course_of_undeclared (runner : Runner σ) (config : Config) (w : World σ)
    (hrun : job.tool = .executable ∨ job.input.expectations.skipReason = none) :
    Course config (job.stages config w.scratchPath) "" (job.perform runner config w).exchanges
      (job.perform runner config w).result := by
  unfold perform
  split_ifs with htool
  · have hchain : job.executableProcedure = Stage.chain (job.stages config w.scratchPath) "" := by
      rw [stages, htool]
      rfl
    rw [hchain]
    exact Stage.course_perform ..
  · simp only [hrun.resolve_left htool, inScratch, procedure_eq_chain]
    exact Stage.course_perform ..

theorem course_perform (runner : Runner σ) (config : Config) (job : Job) (w : World σ)
    (h : job.input.expectations.skipReason = none) :
    Course config (job.stages config w.scratchPath) "" (job.perform runner config w).exchanges
      (job.perform runner config w).result :=
  course_of_undeclared runner config w (.inr h)

/-- **A model that is to be skipped is skipped**, whatever else its directives, its tool and the
configuration say: nothing is run and the world stays as it is. -/
theorem perform_of_declared (runner : Runner σ) (config : Config) (w : World σ) {reason : String}
    (htool : job.tool ≠ .executable)
    (hreason : job.input.expectations.skipReason = some reason) :
    job.perform runner config w = ⟨.ok (.skip reason), [], w⟩ := by
  rw [perform, if_neg htool]
  simp only [hreason]

/-- A model that is not to be skipped is run in a scratch directory. -/
theorem perform_of_model (runner : Runner σ) (config : Config) (w : World σ)
    (htool : job.tool ≠ .executable) (hskip : job.input.expectations.skipReason = none) :
    job.perform runner config w = inScratch runner config (job.procedure config) w := by
  simp only [perform, if_neg htool, hskip]

/-- A performance is a course of the chain, or the job is skipped by its directives. -/
theorem perform_cases (runner : Runner σ) (config : Config) (job : Job) (w : World σ) :
    (job.tool = .executable ∨ job.input.expectations.skipReason = none) ∧
        Course config (job.stages config w.scratchPath) ""
          (job.perform runner config w).exchanges (job.perform runner config w).result ∨
      ∃ reason, job.tool ≠ .executable ∧ job.input.expectations.skipReason = some reason ∧
        job.perform runner config w = ⟨.ok (.skip reason), [], w⟩ := by
  by_cases hrun : job.tool = .executable ∨ job.input.expectations.skipReason = none
  · exact .inl ⟨hrun, course_of_undeclared runner config w hrun⟩
  · obtain ⟨htool, hsome⟩ := not_or.mp hrun
    obtain ⟨reason, hreason⟩ := Option.ne_none_iff_exists'.mp hsome
    exact .inr ⟨reason, htool, hreason, perform_of_declared runner config w htool hreason⟩

end Job

end Conformance
