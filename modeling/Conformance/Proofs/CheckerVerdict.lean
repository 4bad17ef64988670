import Conformance.Proofs.StageRules

/-!
# When a checker job passes

A checker job passes in three ways: the generator refuses the model as it should, the C compiler
refuses the generated checker as it should, or the checker runs as it should and its output is
valid where that can and must be seen. The equivalence is assembled from the last stage backwards,
one lemma for each tail of the chain.

## Main definitions

* `Job.GeneratorRefused`, `Job.CompilerRefused`, `Job.CheckerApproved`: the three ways

## Main results

* `Job.checker_passes_iff`: a checker job passes in exactly these ways
-/

namespace Conformance

variable {config : Config} {before : String} {xs : List Exchange} {r : Except Fault Verdict}

namespace Job

variable (job : Job) (config : Config) (v : Variant) (scratch : Path) (xs : List Exchange)

/-- The generator refused the model with the exit status that was expected of it, and the memory
checker had nothing to report. -/
def GeneratorRefused : Prop :=
  job.input.expectations.generatorStatus ≠ 0 ∧
    ∃ generated, Ran xs 0 (config.prepare (job.generate config v (Path.join scratch "model.c")))
        generated ∧
      generated.exitCode = job.input.expectations.generatorStatus ∧ ¬ config.Violated generated

/-- The generator succeeded as expected, and the C compiler refused what it generated with the exit
status that was expected of it. -/
def CompilerRefused : Prop :=
  job.input.expectations.generatorStatus = 0 ∧
    (∃ generated, Ran xs 0 (config.prepare (job.generate config v (Path.join scratch "model.c")))
        generated ∧ generated.exitCode = 0) ∧
    job.input.expectations.compilerStatus ≠ 0 ∧
    ∃ compiled, Ran xs 1 (job.compileChecker config v (Path.join scratch "model.c")
        (Path.join scratch "model.exe")) compiled ∧
      compiled.exitCode = job.input.expectations.compilerStatus

/-- The generator and the C compiler succeeded as expected, the output of the checker was as
expected, and it is valid XML unless it is text or mixed with text of the model. -/
def CheckerApproved : Prop :=
  job.input.expectations.generatorStatus = 0 ∧ job.input.expectations.compilerStatus = 0 ∧
    (∃ generated, Ran xs 0 (config.prepare (job.generate config v (Path.join scratch "model.c")))
        generated ∧ generated.exitCode = 0) ∧
    (∃ compiled, Ran xs 1 (job.compileChecker config v (Path.join scratch "model.c")
        (Path.join scratch "model.exe")) compiled ∧ compiled.exitCode = 0) ∧
    ∃ checked, Ran xs 2 { program := Path.join scratch "model.exe" } checked ∧
      checked.exitCode = job.input.expectations.checkerStatus ∧
      (∀ p ∈ job.input.expectations.checkerOutput, p.foundIn checked.stdout = true) ∧
      (v.format = .text ∨ Text.HasWord job.input.source.toList "put".toList ∨
        config.hasXmllint = true ∧
          ∃ validated, Ran xs 3
              (validateXml config config.toolchain.verifierSchema checked.stdout) validated ∧
            validated.exitCode = 0)

variable {job config v scratch xs}

/-! ## The tails of the chain -/

/-- The checker and what follows it. -/
theorem checked_passes_iff
    (h : Course config ((job.checkerStages config v scratch).drop 2) before xs r) :
    r = .ok .pass ↔ ∃ checked, Ran xs 0 { program := Path.join scratch "model.exe" } checked ∧
      job.ChecksOut checked ∧ (job.wantsValidation v = false ∨ config.hasXmllint = true ∧
        ∃ validated, Ran xs 1 (validateXml config config.toolchain.verifierSchema checked.stdout)
          validated ∧ validated.exitCode = 0) := by
  rw [h.eq_ok_iff_of_not_instrument rfl .pass fun o xs h => h.validation_passes_iff rfl]
  refine exists_congr fun checked => and_congr_right fun _ => ?_
  simp only [ran_tail, checkedAs_eq_pass_iff (Output.unwatched_memoryViolation checked),
    checkedAs_eq_proceed_iff (Output.unwatched_memoryViolation checked)]
  cases job.wantsValidation v <;> simp [ChecksOut, and_assoc]

/-- The compilation of the checker and what follows it. -/
theorem compiled_passes_iff
    (h : Course config ((job.checkerStages config v scratch).drop 1) before xs r) :
    r = .ok .pass ↔ ∃ compiled, Ran xs 0 (job.compileChecker config v
        (Path.join scratch "model.c") (Path.join scratch "model.exe")) compiled ∧
      (compiled.exitCode = job.input.expectations.compilerStatus ∧
          job.input.expectations.compilerStatus ≠ 0 ∨
        (compiled.exitCode = 0 ∧ job.input.expectations.compilerStatus = 0) ∧
        ∃ checked, Ran xs 1 { program := Path.join scratch "model.exe" } checked ∧
          job.ChecksOut checked ∧ (job.wantsValidation v = false ∨ config.hasXmllint = true ∧
            ∃ validated, Ran xs 2 (validateXml config config.toolchain.verifierSchema
              checked.stdout) validated ∧ validated.exitCode = 0)) := by
  rw [h.eq_ok_iff_of_not_instrument rfl .pass fun o xs h => checked_passes_iff h]
  refine exists_congr fun compiled => and_congr_right fun _ => ?_
  simp only [ran_tail, checkExit_eq_pass_iff, checkExit_eq_proceed_iff]
  simp

/-- The validation is not wanted, or it is had: what is said of the XML of a checker. -/
theorem not_wantsValidation_or_iff {p : Prop} :
    (job.wantsValidation v = false ∨ p) ↔
      v.format = .text ∨ Text.HasWord job.input.source.toList "put".toList ∨ p := by
  have hformat : ¬ v.format = .machineReadable ↔ v.format = .text := by
    cases v.format <;> simp
  rw [← Bool.not_eq_true, wantsValidation_iff, not_and_or, not_not, hformat, or_assoc]

/-! ## The whole chain -/

/-- **A checker job passes in exactly three ways**, whatever the runner does: its generator refused
the model as expected, its compiler refused the checker as expected, or its checker was approved. -/
theorem checker_passes_iff {σ : Type} (runner : Runner σ) (config : Config) (job : Job)
    (v : Variant) (w : World σ) (checker : job.tool = .checker v)
    (unskipped : job.input.expectations.skipReason = none) :
    (job.perform runner config w).result = .ok .pass ↔
      job.GeneratorRefused config v w.scratchPath (job.perform runner config w).exchanges ∨
      job.CompilerRefused config v w.scratchPath (job.perform runner config w).exchanges ∨
      job.CheckerApproved config v w.scratchPath (job.perform runner config w).exchanges := by
  have h := job.course_perform runner config w unskipped
  rw [stages, checker] at h
  rw [h.eq_ok_iff .pass fun o xs h => compiled_passes_iff h]
  simp only [generate_eq_pass_iff, generate_eq_proceed_iff, ran_tail, not_wantsValidation_or_iff]
  -- each of the three ways ends the chain at a stage of its own
  constructor
  · rintro ⟨generated, hg, ⟨hv, he, hne⟩ | ⟨⟨hg0, hgs⟩, compiled, hc, hrest⟩⟩
    · exact .inl ⟨hne, generated, hg, he, hv⟩
    · rcases hrest with ⟨he, hne⟩ | ⟨⟨hc0, hcs⟩, checked, hk, ⟨he, hp⟩, hx⟩
      · exact .inr (.inl ⟨hgs, ⟨generated, hg, hg0⟩, hne, compiled, hc, he⟩)
      · exact .inr (.inr ⟨hgs, hcs, ⟨generated, hg, hg0⟩, ⟨compiled, hc, hc0⟩,
          checked, hk, he, hp, hx⟩)
  · rintro (⟨hne, generated, hg, he, hv⟩ | ⟨hgs, ⟨generated, hg, hg0⟩, hne, compiled, hc, he⟩ |
      ⟨hgs, hcs, ⟨generated, hg, hg0⟩, ⟨compiled, hc, hc0⟩, checked, hk, he, hp, hx⟩)
    · exact ⟨generated, hg, .inl ⟨hv, he, hne⟩⟩
    · exact ⟨generated, hg, .inr ⟨⟨hg0, hgs⟩, compiled, hc, .inl ⟨he, hne⟩⟩⟩
    · exact ⟨generated, hg, .inr ⟨⟨hg0, hgs⟩, compiled, hc,
        .inr ⟨⟨hc0, hcs⟩, checked, hk, ⟨he, hp⟩, hx⟩⟩⟩

/-- A checker that should find an error and does, with valid XML. -/
theorem checker_passes_with_valid_xml :
    (((Job.bare (.checker ⟨false, false, false, .machineReadable⟩)).expecting
        { checkerStatus := 1 }).perform Runner.ofAnswers { Config.bare with hasXmllint := true }
      (World.answering [.ok {}, .ok {}, .ok { exitCode := 1, stdout := "<states/>" }])).result =
      .ok .pass := by
  refine (checker_passes_iff _ _ _ _ _ rfl rfl).mpr (.inr (.inr ⟨rfl, rfl, ?_, ?_, ?_⟩))
  · exact ⟨_, ⟨_, rfl, rfl, rfl⟩, rfl⟩
  · exact ⟨_, ⟨_, rfl, rfl, rfl⟩, rfl⟩
  · exact ⟨_, ⟨_, rfl, rfl, rfl⟩, rfl, nofun, .inr (.inr ⟨rfl, _, ⟨_, rfl, rfl, rfl⟩, rfl⟩)⟩

end Job

end Conformance
