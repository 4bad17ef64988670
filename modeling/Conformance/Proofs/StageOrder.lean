import Conformance.Proofs.StageRules
import Mathlib.Data.List.Forall2

/-!
# The order of the stages

The processes of a job are the calls of its stages in their order, each at most once, and the job
goes on from one to the next exactly if the gate between them is open.

## Main definitions

* `Stage.GatedBy`: the condition on which a stage lets the chain go on
* `Job.gates`: what each stage has to leave behind for the next one to be run

## Main results

* `Job.stages_gatedBy`: every stage but the last lets the chain go on exactly if its gate is open
* `Job.exchanges_in_order`: the processes of a job are a beginning of its chain, as long as the
  gates are open
-/

namespace Conformance

/-- The stage lets the chain go on exactly if its output fulfils the gate, whatever was on standard
output before it. -/
def Stage.GatedBy (config : Config) (s : Stage) (gate : Output → Prop) : Prop :=
  ∀ before o, s.check (config.interpret (s.call before) o) = .proceed ↔ gate o

namespace Job

/-- What a converter has to leave behind for the next stage to be run: it succeeded on a source that
its target can express. -/
def Converted (job : Job) (o : Output) : Prop :=
  o.exitCode = 0 ∧ ¬ job.tool.Unsupported job.input.source

/-- What each stage of a job but the last has to leave behind for the next one to be run. -/
def gates (job : Job) (config : Config) : List (Output → Prop) :=
  match job.tool with
  | .executable => []
  | .checker v =>
    [fun generated =>
       generated.exitCode = 0 ∧ job.input.expectations.generatorStatus = 0,
     fun compiled =>
       compiled.exitCode = 0 ∧ job.input.expectations.compilerStatus = 0,
     fun checked =>
       checked.exitCode = job.input.expectations.checkerStatus ∧
         (∀ p ∈ job.input.expectations.checkerOutput, p.foundIn checked.stdout = true) ∧
         v.format = .machineReadable ∧
         ¬ Text.HasWord job.input.source.toList "put".toList ∧
         config.hasXmllint = true]
  | .murphi2c => [job.Converted]
  | .murphi2cHeader => [job.Converted, fun compiled => compiled.exitCode = 0]
  | .murphi2uclid => [fun converted => job.Converted converted ∧ config.hasUclid = true]
  | .murphi2xml => [fun converted => job.Converted converted ∧ config.hasXmllint = true]

variable {job : Job} {config : Config} {scratch : Path}

/-- A stage that no memory checker watches lets the chain go on after an exit status of zero, if
that is expected. -/
theorem checkExit_unwatched_eq_proceed_iff {stage : String} {o : Output} {expected : Int32} :
    checkExit stage o.unwatched expected = .proceed ↔ o.exitCode = 0 ∧ expected = 0 := by
  simp [checkExit_eq_proceed_iff]

theorem convertStage_gatedBy {stage : String} {program : Path} {flags : List String} :
    (job.convertStage stage program flags .proceed).GatedBy config job.Converted := by
  intro before o
  refine convertStage_eq_proceed_iff.trans ?_
  simp [Converted]

theorem convertStage_gatedBy_needs {stage : String} {program : Path} {flags : List String}
    {available : Bool} {reason : String} :
    (job.convertStage stage program flags (needs available reason)).GatedBy config
      fun converted => job.Converted converted ∧ available = true := by
  intro before o
  refine convertStage_eq_proceed_iff.trans ?_
  simp [Converted, needs_eq_proceed_iff, and_assoc]

/-- **Behind every stage but the last there is its gate.** -/
theorem stages_gatedBy (job : Job) (config : Config) (scratch : Path) :
    List.Forall₂ (Stage.GatedBy config) (job.stages config scratch).dropLast
      (job.gates config) := by
  unfold stages gates
  cases job.tool with
  | executable => exact .nil
  | checker v =>
    refine .cons (fun _ _ => generate_eq_proceed_iff)
      (.cons (fun _ _ => checkExit_unwatched_eq_proceed_iff) (.cons (fun before o => ?_) .nil))
    refine (checkedAs_eq_proceed_iff o.unwatched_memoryViolation).trans ?_
    rw [wantsValidation_iff]
    simp [ChecksOut, and_assoc]
  | murphi2c => exact .cons convertStage_gatedBy .nil
  | murphi2cHeader =>
    refine .cons convertStage_gatedBy (.cons (fun before o => ?_) .nil)
    refine checkExit_unwatched_eq_proceed_iff.trans ?_
    simp
  | murphi2uclid => exact .cons convertStage_gatedBy_needs .nil
  | murphi2xml => exact .cons convertStage_gatedBy_needs .nil

theorem length_gates (job : Job) (config : Config) (scratch : Path) :
    (job.gates config).length + 1 = (job.stages config scratch).length := by
  unfold gates stages
  cases job.tool <;> rfl

/-- A stage and the gate behind it. -/
theorem gatedBy_of_getElem? {n : Nat} {s : Stage} {gate : Output → Prop}
    (hs : (job.stages config scratch)[n]? = some s)
    (hg : (job.gates config)[n]? = some gate) : s.GatedBy config gate := by
  obtain ⟨hn, rfl⟩ := List.getElem?_eq_some_iff.mp hg
  have hlen := length_gates job config scratch
  have hs' : (job.stages config scratch).dropLast[n]? = some s := by
    rw [List.getElem?_dropLast, if_pos (by omega), hs]
  obtain ⟨hn', rfl⟩ := List.getElem?_eq_some_iff.mp hs'
  exact (job.stages_gatedBy config scratch).get hn' hn

/-- **The stages run in order**, whatever the runner does. The first one is run, the `n`-th process
is the call of the `n`-th stage, and a later stage is run exactly if the one before it was run, left
an output, and its gate is open. -/
theorem exchanges_in_order {σ : Type} (runner : Runner σ) (config : Config) (job : Job)
    (w : World σ) (unskipped : job.input.expectations.skipReason = none) :
    let xs := (job.perform runner config w).exchanges
    0 < xs.length ∧ xs.length ≤ (job.stages config w.scratchPath).length ∧
      (∀ (n : Nat) (x : Exchange), xs[n]? = some x →
        ∃ s, (job.stages config w.scratchPath)[n]? = some s ∧
          x.call = config.prepare (s.call (stdoutBefore "" xs n))) ∧
      ∀ n, n + 1 < xs.length ↔ ∃ x o gate, xs[n]? = some x ∧ x.answer = .ok o ∧
        (job.gates config)[n]? = some gate ∧ gate o := by
  intro xs
  have h := job.course_perform runner config w unskipped
  have hlen := length_gates job config w.scratchPath
  refine ⟨?_, h.length_le, fun n x hx => h.call_eq hx, fun n => ?_⟩
  · have hne : job.stages config w.scratchPath ≠ [] := by
      rw [← List.length_pos_iff]
      omega
    exact List.length_pos_iff.mpr (mt h.eq_nil_iff.mp hne)
  · -- a stage that is not the last has a gate, and no gate stands behind the last
    rw [h.lt_length_iff n]
    constructor
    · rintro ⟨hn, s, x, o, hs, hx, ho, hp⟩
      have hg := List.getElem?_eq_getElem (show n < (job.gates config).length by omega)
      exact ⟨x, o, _, hx, ho, hg, (gatedBy_of_getElem? hs hg _ o).mp hp⟩
    · rintro ⟨x, o, gate, hx, ho, hg, hopen⟩
      obtain ⟨hn, -⟩ := List.getElem?_eq_some_iff.mp hg
      obtain ⟨s, hs, -⟩ := h.call_eq hx
      exact ⟨by omega, s, x, o, hs, hx, ho, (gatedBy_of_getElem? hs hg _ o).mpr hopen⟩

/-- A header that the C compiler refuses is not given to the C++ compiler. -/
theorem exchanges_in_order_of_refused_header :
    ((Job.bare .murphi2cHeader).perform Runner.ofAnswers Config.bare
      (World.answering [.ok {}, .ok { exitCode := 1 }])).exchanges.length = 2 := by
  obtain ⟨-, -, -, hnext⟩ := exchanges_in_order Runner.ofAnswers Config.bare
    (Job.bare .murphi2cHeader) (World.answering [.ok {}, .ok { exitCode := 1 }]) rfl
  refine Nat.le_antisymm (Nat.not_lt.mp fun hlt => ?_) ((hnext 0).mpr ?_)
  · obtain ⟨x, o, gate, hx, ho, hg, hopen⟩ := (hnext 1).mp hlt
    obtain rfl := Option.some.inj hx
    obtain rfl := Except.ok.inj ho
    obtain rfl := Option.some.inj hg
    exact absurd hopen (by decide)
  · refine ⟨_, {}, _, rfl, rfl, rfl, rfl, ?_⟩
    exact (Tool.unsupported?_eq_none_iff _ _).mp rfl

end Job

end Conformance
