import Conformance.Proofs.StageRules

/-!
# When a converter job passes

A converter job passes in two ways: the converter fails and has a reason to, or it succeeds on a
model that its target can express, and what follows confirms its output.

## Main definitions

* `Tool.converter?`: the program of a converter and its flags
* `Job.FollowedUp`: what follows a converter confirmed its output

## Main results

* `Job.converter_passes_iff`: a converter job passes in exactly these ways, and fails if the
  converter accepts what its target cannot express
-/

namespace Conformance

/-- The program of a converter and the flags that it is given. -/
def Tool.converter? (tool : Tool) (t : Toolchain) : Option (Path × List String) :=
  match tool with
  | executable | checker _ => none
  | murphi2c => some (t.murphi2c, [])
  | murphi2cHeader => some (t.murphi2c, ["--header"])
  | murphi2uclid => some (t.murphi2uclid, [])
  | murphi2xml => some (t.murphi2xml, [])

namespace Job

/-- What follows a converter confirmed its output: the compilers of C, of which a header needs two,
the verifier of Uclid5 or the validator of XML, where the last two have to be there. -/
def FollowedUp (job : Job) (config : Config) (scratch : Path) (converted : Output)
    (xs : List Exchange) : Prop :=
  match job.tool with
  | .executable | .checker _ => False
  | .murphi2c =>
    ∃ compiled, Ran xs 1 (compileConverted config (Path.join scratch "model.c")
        (Path.join scratch "model.o")) compiled ∧
      compiled.exitCode = job.input.expectations.compilerStatus
  | .murphi2cHeader =>
    ∃ compiledC, Ran xs 1 (compileHeaderC config (Path.join scratch "header.h")
        (Path.join scratch "header-c.out")) compiledC ∧ compiledC.exitCode = 0 ∧
      ∃ compiledCxx, Ran xs 2 (compileHeaderCxx config (Path.join scratch "header.h")
        (Path.join scratch "header-cxx.out")) compiledCxx ∧ compiledCxx.exitCode = 0
  | .murphi2uclid =>
    config.hasUclid = true ∧
      ∃ verified, Ran xs 1
          { program := config.toolchain.uclid, args := [Path.join scratch "source.ucl"] }
          verified ∧ verified.exitCode = 0
  | .murphi2xml =>
    config.hasXmllint = true ∧
      ∃ validated, Ran xs 1 (validateXml config config.toolchain.murphi2xmlSchema
        converted.stdout) validated ∧ validated.exitCode = 0

variable {job : Job} {config : Config} {scratch : Path} {before : String} {xs : List Exchange}
  {r : Except Fault Verdict}

/-- The compilations of a header pass exactly if both compilers succeed, whatever exit status is
expected of a compiler. -/
theorem header_passes_iff (job : Job)
    (h : Course config ((job.headerStages config scratch).drop 1) before xs r) :
    r = .ok .pass ↔ ∃ compiledC, Ran xs 0 (compileHeaderC config (Path.join scratch "header.h")
        (Path.join scratch "header-c.out")) compiledC ∧ compiledC.exitCode = 0 ∧
      ∃ compiledCxx, Ran xs 1 (compileHeaderCxx config (Path.join scratch "header.h")
        (Path.join scratch "header-cxx.out")) compiledCxx ∧ compiledCxx.exitCode = 0 := by
  rw [h.eq_ok_iff_of_not_instrument rfl .pass fun o xs h => h.compilation_passes_iff rfl]
  refine exists_congr fun compiledC => and_congr_right fun _ => ?_
  simp only [ran_tail, checkExit_eq_pass_iff, checkExit_eq_proceed_iff]
  simp

/-- The chain of a converter begins with its conversion. -/
theorem stages_of_converter {program : Path} {flags : List String}
    (converter : job.tool.converter? config.toolchain = some (program, flags)) :
    ∃ stage further rest,
      job.stages config scratch = job.convertStage stage program flags further :: rest := by
  unfold stages
  cases htool : job.tool with
  | executable | checker => simp [htool, Tool.converter?] at converter
  | murphi2c | murphi2cHeader | murphi2uclid | murphi2xml =>
    rw [htool] at converter
    obtain ⟨rfl, rfl⟩ := Prod.mk.inj (Option.some.inj converter)
    exact ⟨_, _, _, rfl⟩

/-- The chain of a converter passes exactly if the conversion and what follows it do. -/
theorem conversion_passes_iff {program : Path} {flags : List String}
    (converter : job.tool.converter? config.toolchain = some (program, flags))
    (h : Course config (job.stages config scratch) "" xs r) :
    r = .ok .pass ↔
      ∃ converted, Ran xs 0 (config.prepare (job.convertCall program flags)) converted ∧
        ¬ config.Violated converted ∧
        (converted.exitCode ≠ 0 ∧ (job.tool.Unsupported job.input.source ∨
            job.input.expectations.generatorStatus ≠ 0) ∨
          converted.exitCode = 0 ∧ ¬ job.tool.Unsupported job.input.source ∧
            job.FollowedUp config scratch converted xs) := by
  unfold stages at h
  unfold FollowedUp
  cases htool : job.tool with
  | executable | checker => simp [htool, Tool.converter?] at converter
  | murphi2c =>
    rw [htool] at h converter
    obtain ⟨rfl, rfl⟩ := Prod.mk.inj (Option.some.inj converter)
    rw [h.conversion_passes_iff nofun fun o xs h => h.compilation_passes_iff rfl]
    simp only [ran_tail, htool, true_and]
  | murphi2cHeader =>
    rw [htool] at h converter
    obtain ⟨rfl, rfl⟩ := Prod.mk.inj (Option.some.inj converter)
    rw [h.conversion_passes_iff nofun fun o xs h => job.header_passes_iff h]
    simp only [ran_tail, htool, true_and]
  | murphi2uclid =>
    rw [htool] at h converter
    obtain ⟨rfl, rfl⟩ := Prod.mk.inj (Option.some.inj converter)
    rw [h.conversion_passes_iff (needs_ne_pass _ _) fun o xs h => h.validation_passes_iff rfl]
    simp only [ran_tail, htool, needs_eq_proceed_iff]
  | murphi2xml =>
    rw [htool] at h converter
    obtain ⟨rfl, rfl⟩ := Prod.mk.inj (Option.some.inj converter)
    rw [h.conversion_passes_iff (needs_ne_pass _ _) fun o xs h => h.validation_passes_iff rfl]
    simp only [ran_tail, htool, needs_eq_proceed_iff]

/-- **A converter job passes in exactly two ways**, whatever the runner does: the converter failed
with a reason to, or it succeeded on what its target can express and was followed up. If it accepts
what its target cannot express, the job fails, whatever exit status is expected of it. -/
theorem converter_passes_iff {σ : Type} (runner : Runner σ) (config : Config) (job : Job)
    (w : World σ) (program : Path) (flags : List String)
    (converter : job.tool.converter? config.toolchain = some (program, flags))
    (unskipped : job.input.expectations.skipReason = none) :
    ((job.perform runner config w).result = .ok .pass ↔
      ∃ converted, Ran (job.perform runner config w).exchanges 0
          (config.prepare (job.convertCall program flags)) converted ∧
        ¬ config.Violated converted ∧
        (converted.exitCode ≠ 0 ∧ (job.tool.Unsupported job.input.source ∨
            job.input.expectations.generatorStatus ≠ 0) ∨
          converted.exitCode = 0 ∧ ¬ job.tool.Unsupported job.input.source ∧
            job.FollowedUp config w.scratchPath converted
              (job.perform runner config w).exchanges)) ∧
    ∀ converted, Ran (job.perform runner config w).exchanges 0
        (config.prepare (job.convertCall program flags)) converted →
      converted.exitCode = 0 → job.tool.Unsupported job.input.source →
        ∃ headline, (job.perform runner config w).result =
          .ok (.failed .toolInvocation headline converted) := by
  have h := job.course_perform runner config w unskipped
  refine ⟨conversion_passes_iff converter h, fun converted ran he hu => ?_⟩
  obtain ⟨stage, further, rest, hstages⟩ := stages_of_converter converter
  rw [hstages] at h
  exact h.conversion_fails ran he hu

/-- A model that uses `isundefined` is not converted to C, as it should be. -/
theorem converter_passes_on_isundefined :
    ((Job.mk "murphi2c" "test_model_m" .murphi2c
        ⟨"model.m", "rule isundefined(x) ==> begin end;", {}⟩).perform Runner.ofAnswers Config.bare
      (World.answering [.ok { exitCode := 1 }])).result = .ok .pass := by
  refine (converter_passes_iff _ _ _ _ "murphi2c" [] rfl rfl).1.mpr ?_
  refine ⟨_, ⟨_, rfl, rfl, rfl⟩, fun h => absurd h.1 (by decide), .inl ⟨by decide, .inl ?_⟩⟩
  exact (Tool.unsupported?_isSome_iff _ _).mp (by decide)

end Job

end Conformance
