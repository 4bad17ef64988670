import Conformance.Proofs.Configuration
import Conformance.Proofs.Stages
import Conformance.Rehearsal

/-!
# Validators that may be missing

A host may lack the validator of XML and the verifier of Uclid5. Two performances of one job, one
without and one with such a program, go hand in hand up to the point where everything else is
settled: there the one is skipped, and the other has the program decide. A failure that is found
without the program is found with it, and so is a pass.

## Main definitions

* `Validator`: the programs that a host may lack
* `Config.withValidator`: a configuration with another word on one of them
* `Runner.Blind alike`: a runner whose answers do not depend on the environment
* `Deferred`: two chains that differ in a validator at their end
* `Confirmed`: how two performances may differ

## Main results

* `Stage.perform_deferred`: two chains that differ in a validator are performed alike
* `Job.missing_validator`: what a missing validator changes
-/

namespace Conformance

/-! ## Two configurations -/

/-- The programs that confirm an output and that a host may lack. -/
inductive Validator where
  | xmllint
  | uclid
deriving DecidableEq, Repr

namespace Validator

/-- The flag that states whether the program is there. -/
def flag : Validator → Config.Flag
  | xmllint => .xmllint
  | uclid => .uclid

/-- Where the program is found. -/
def program (t : Toolchain) : Validator → Path
  | xmllint => t.xmllint
  | uclid => t.uclid

/-- Why a job is skipped without the program. -/
def reasons : Validator → List String
  | xmllint => ["xmllint not available", "xmllint not available for validation"]
  | uclid => ["uclid not available for validation"]

end Validator

namespace Config

/-- The configuration with another word on whether a validator is there, stated by other facts. -/
def withValidator (config : Config) (v : Validator) (available : Bool)
    (facts : Dictionary Literal) : Config :=
  config.withFlag v.flag available facts

variable {config : Config} {v : Validator} {available : Bool} {facts : Dictionary Literal}

@[simp] theorem prepare_withValidator (i : Invocation) :
    (config.withValidator v available facts).prepare i = config.prepare i := by
  cases v <;> rfl

@[simp] theorem interpret_withValidator (i : Invocation) (o : Output) :
    (config.withValidator v available facts).interpret i o = config.interpret i o := by
  cases v <;> rfl

end Config

/-! ## Runners -/

variable {σ : Type}

/-- **A runner whose answers do not depend on the environment** that it is given: in worlds that are
alike it gives the same answer in any two environments, and leaves worlds that are alike. Its
answers may depend on all that was asked of it before. -/
structure Runner.Blind (runner : Runner σ) (alike : World σ → World σ → Prop) : Prop where
  refl : ∀ w, alike w w
  answer_eq : ∀ {w w'}, alike w w' → ∀ call environment environment',
    (runner.run call environment w).1 = (runner.run call environment' w').1
  run : ∀ {w w'}, alike w w' → ∀ call environment environment',
    alike (runner.run call environment w).2 (runner.run call environment' w').2
  write : ∀ {w w'}, alike w w' → ∀ place content,
    alike { w with files := w.files.write place content }
      { w' with files := w'.files.write place content }

/-- One run in worlds that are alike. -/
theorem Runner.Blind.run_cases {runner : Runner σ} {alike : World σ → World σ → Prop}
    (blind : runner.Blind alike) {w w' : World σ} (hw : alike w w') (call : Invocation)
    (environment environment' : Environment) :
    ∃ answer u u', runner.run call environment w = (answer, u) ∧
      runner.run call environment' w' = (answer, u') ∧ alike u u' := by
  refine ⟨_, _, (runner.run call environment' w').2, rfl, Prod.ext ?_ rfl,
    blind.run hw call environment environment'⟩
  exact (blind.answer_eq hw call environment environment').symm

/-- What was asked and what was answered, whatever the environment. -/
def Exchange.record (x : Exchange) : Invocation × Except SpawnFailure Output :=
  (x.call, x.answer)

@[simp] theorem Config.record_exchange (config : Config) (i : Invocation)
    (answer : Except SpawnFailure Output) :
    (config.exchange i answer).record = (config.prepare i, answer) := rfl

/-! ## Two performances -/

/-- What a job comes to by the answer of its validator. -/
inductive Decided : Except SpawnFailure Output → Except Fault Verdict → Prop
  | unstarted (failure : SpawnFailure) : Decided (.error failure) (.error (.spawn failure))
  | passed {o : Output} (success : o.exitCode = 0) : Decided (.ok o) (.ok .pass)
  | failed {o : Output} (failure : o.exitCode ≠ 0) (diagnostic : String) :
    Decided (.ok o) (.ok (.fail .validation diagnostic))

/-- **How a performance without a validator is confirmed by one with it**: both come to the same and
run the same, or the one is skipped for want of the validator, and the other runs the same, then the
validator, and comes to what that decides. -/
inductive Confirmed (v : Validator) (program : Path) (r : Except Fault Verdict)
    (xs : List Exchange) (r' : Except Fault Verdict) (xs' : List Exchange) : Prop
  | same (result : r = r') (records : xs.map Exchange.record = xs'.map Exchange.record)
  | decided {reason : String} {call : Invocation} {answer : Except SpawnFailure Output}
    (skipped : r = .ok (.skip reason)) (missing : reason ∈ v.reasons)
    (validator : call.program = program)
    (records : xs'.map Exchange.record = xs.map Exchange.record ++ [(call, answer)])
    (result : Decided answer r')

theorem Confirmed.cons {v : Validator} {program : Path} {r r' : Except Fault Verdict}
    {xs xs' : List Exchange} {x x' : Exchange} (hx : x.record = x'.record)
    (h : Confirmed v program r xs r' xs') : Confirmed v program r (x :: xs) r' (x' :: xs') := by
  cases h with
  | same result records => exact .same result (by simp [hx, records])
  | decided skipped missing validator records result =>
    exact .decided skipped missing validator (by simp [hx, records]) result

/-- The last stage of a chain, at which a validator decides. -/
structure Stage.Validates (s : Stage) (program : Path) : Prop where
  program : ∀ before, (s.call before).program = program
  unwatched : ∀ before, (s.call before).instrument = false
  check : ∃ headline, ∀ o, s.check o = .finished (checkValidation headline o)

/-- **Two chains that differ in a validator**: they agree up to a stage behind which the one has no
way to go on, and the other has the validator decide. -/
inductive Deferred (v : Validator) (program : Path) : List Stage → List Stage → Prop
  | nil : Deferred v program [] []
  | cons (s : Stage) {rest rest' : List Stage} (h : Deferred v program rest rest') :
    Deferred v program (s :: rest) (s :: rest')
  | gate {s s' t : Stage} (rest : List Stage) (file : s.file? = s'.file?) (call : s.call = s'.call)
    (gate : ∀ o, s.check o = s'.check o ∧ s.check o ≠ .proceed ∨
      s'.check o = .proceed ∧ ∃ reason ∈ v.reasons, s.check o = .finished (.skip reason))
    (validates : t.Validates program) :
    Deferred v program (s :: rest) [s', t]

theorem Deferred.refl (v : Validator) (program : Path) (stages : List Stage) :
    Deferred v program stages stages := by
  induction stages with
  | nil => exact .nil
  | cons s rest ih => exact .cons s ih

/-- A validator at the end of a chain decides a job that is skipped without it. -/
theorem Stage.Validates.confirmed {s : Stage} {program : Path} (h : s.Validates program)
    {v : Validator} {reason : String} (missing : reason ∈ v.reasons) {config : Config}
    {before : String} {xs : List Exchange} {r : Except Fault Verdict}
    (course : Course config [s] before xs r) :
    Confirmed v program (.ok (.skip reason)) [] r xs := by
  obtain ⟨headline, hcheck⟩ := h.check
  have hcall : config.prepare (s.call before) = s.call before :=
    config.prepare_of_not_instrument (h.unwatched before)
  cases course with
  | unstarted s rest before failure =>
    exact .decided rfl missing (h.program before) (by simp [hcall]) (.unstarted failure)
  | @settled s before o verdict rest hsettled =>
    have hrecords : [config.exchange (s.call before) (.ok o)].map Exchange.record =
        [] ++ [(s.call before, .ok o)] := by simp [hcall]
    refine .decided rfl missing (h.program before) hrecords ?_
    rw [hcheck, Progress.finished.injEq] at hsettled
    rw [← hsettled, checkValidation, Config.interpret_exitCode]
    split_ifs with hcode
    · exact .passed hcode
    · exact .failed hcode _
  | onward honward next =>
    rw [hcheck] at honward
    contradiction

section Performance

variable {runner : Runner σ} {alike : World σ → World σ → Prop} (blind : runner.Blind alike)
  {config : Config} {v : Validator} {facts facts' : Dictionary Literal} {program : Path}
  {scratch : Place} {w w' : World σ}

include blind

theorem Runner.Blind.enter (hw : alike w w') {s s' : Stage} (file : s.file? = s'.file?)
    (scratch : Place) (before : String) :
    alike (s.enter scratch before w) (s'.enter scratch before w') := by
  unfold Stage.enter
  rw [← file]
  cases s.file? with
  | none => exact hw
  | some name => exact blind.write hw _ _

/-- One stage of two chains, with the same file and the same call. -/
theorem Stage.confirmed_cons {s s' : Stage} {rest rest' : List Stage} (file : s.file? = s'.file?)
    (call : s.call = s'.call) (before : String)
    (next : ∀ o : Output, ∀ u u' : World σ, alike u u' →
      let p := ((s.check (config.interpret (s.call before) o)).andThen
        (chain rest o.stdout)).perform runner (config.withValidator v false facts) scratch u
      let q := ((s'.check (config.interpret (s.call before) o)).andThen
        (chain rest' o.stdout)).perform runner (config.withValidator v true facts') scratch u'
      Confirmed v program p.result p.exchanges q.result q.exchanges)
    (hw : alike w w') :
    let p := (chain (s :: rest) before).perform runner (config.withValidator v false facts)
      scratch w
    let q := (chain (s' :: rest') before).perform runner (config.withValidator v true facts')
      scratch w'
    Confirmed v program p.result p.exchanges q.result q.exchanges := by
  rw [perform_cons, perform_cons, ← call]
  obtain ⟨answer, u, u', hrun, hrun', hu⟩ := blind.run_cases (blind.enter hw file scratch before)
    (config.prepare (s.call before)) (config.withValidator v false facts).environment
    (config.withValidator v true facts').environment
  have hprepare : ∀ available facts, (config.withValidator v available facts).prepare
      (s.call before) = config.prepare (s.call before) := fun _ _ => config.prepare_withValidator _
  rw [← hprepare false facts] at hrun
  rw [← hprepare true facts'] at hrun'
  cases answer with
  | error failure =>
    rw [Procedure.perform_run_error scratch _ hrun, Procedure.perform_run_error scratch _ hrun']
    exact .same rfl (by simp)
  | ok o =>
    rw [Procedure.perform_run_ok scratch _ hrun, Procedure.perform_run_ok scratch _ hrun']
    refine Confirmed.cons (by simp) ?_
    simpa using next o u u' hu

/-- **Two chains that differ in a validator are performed alike.** -/
theorem Stage.perform_deferred {stages stages' : List Stage}
    (h : Deferred v program stages stages') (before : String) (hw : alike w w') :
    let p := (chain stages before).perform runner (config.withValidator v false facts) scratch w
    let q := (chain stages' before).perform runner (config.withValidator v true facts') scratch w'
    Confirmed v program p.result p.exchanges q.result q.exchanges := by
  induction h generalizing before w w' with
  | nil => exact .same rfl rfl
  | cons s h ih =>
    refine Stage.confirmed_cons blind rfl rfl before (fun o u u' hu => ?_) hw
    cases s.check (config.interpret (s.call before) o) with
    | finished verdict => exact .same rfl rfl
    | proceed => exact ih o.stdout hu
  | @gate s s' t rest file call gate validates =>
    refine Stage.confirmed_cons blind file call before (fun o u u' hu => ?_) hw
    rcases gate (config.interpret (s.call before) o) with ⟨heq, hne⟩ | ⟨hgo, reason, hr, hskip⟩
    · rw [← heq]
      cases hcheck : s.check (config.interpret (s.call before) o) with
      | finished verdict => exact .same rfl rfl
      | proceed => exact absurd hcheck hne
    · rw [hgo, hskip]
      exact validates.confirmed hr (Stage.course_perform ..)

end Performance

/-! ## The chains of jobs -/

namespace Job

variable {job : Job} {config : Config} {facts facts' : Dictionary Literal}

/-- Behind a converter a validator may be missing. -/
theorem convertStage_gate {stage : String} {program : Path} {flags : List String}
    {reasons : List String} {reason : String} (hr : reason ∈ reasons) (o : Output) :
    let s := job.convertStage stage program flags (needs false reason)
    let s' := job.convertStage stage program flags (needs true reason)
    s.check o = s'.check o ∧ s.check o ≠ .proceed ∨
      s'.check o = .proceed ∧ ∃ reason ∈ reasons, s.check o = .finished (.skip reason) := by
  intro s s'
  simp only [s, s', convertStage]
  cases checkConversion stage o (job.input.expectations.generatorStatus != 0)
    (job.tool.unsupported? job.input.source) with
  | finished verdict => exact .inl ⟨rfl, by simp⟩
  | proceed => exact .inr ⟨rfl, reason, hr, rfl⟩

theorem checkedAs_gate (v : Variant) (o : Output) :
    let c := config.withValidator .xmllint false facts
    let c' := config.withValidator .xmllint true facts'
    job.checkedAs c v o = job.checkedAs c' v o ∧ job.checkedAs c v o ≠ .proceed ∨
      job.checkedAs c' v o = .proceed ∧ ∃ reason ∈ Validator.xmllint.reasons,
        job.checkedAs c v o = .finished (.skip reason) := by
  intro c c'
  unfold checkedAs
  cases checkStatus "checker" o job.input.expectations.checkerStatus with
  | some failure => exact .inl ⟨rfl, nofun⟩
  | none =>
    cases job.outputMismatch? o with
    | some failure => exact .inl ⟨rfl, nofun⟩
    | none =>
      dsimp only
      split_ifs
      · exact .inr ⟨rfl, _, List.mem_cons_self, rfl⟩
      · exact .inl ⟨rfl, nofun⟩

theorem validateXml_validates (config : Config) (schema : Path) (headline : String) :
    Stage.Validates
      { call := validateXml config schema
        check := fun o => .finished (checkValidation headline o) }
      config.toolchain.xmllint where
  program := fun _ => rfl
  unwatched := fun _ => rfl
  check := ⟨headline, fun _ => rfl⟩

/-- **The chains of a job without and with a validator** differ in it, if at all. -/
theorem stages_deferred (job : Job) (config : Config) (v : Validator) (scratch : Path) :
    Deferred v (v.program config.toolchain)
      (job.stages (config.withValidator v false facts) scratch)
      (job.stages (config.withValidator v true facts') scratch) := by
  unfold stages
  cases v with
  | xmllint =>
    cases job.tool with
    | checker variant =>
      exact .cons _ (.cons _ (.gate _ rfl rfl (checkedAs_gate variant)
        (validateXml_validates config _ _)))
    | murphi2xml =>
      exact .gate _ rfl rfl (convertStage_gate (.tail _ (.head _)))
        (validateXml_validates config _ _)
    | executable | murphi2c | murphi2cHeader | murphi2uclid => exact .refl _ _ _
  | uclid =>
    cases job.tool with
    | murphi2uclid =>
      exact .gate _ rfl rfl (convertStage_gate (.head _))
        ⟨fun _ => rfl, fun _ => rfl, _, fun _ => rfl⟩
    | executable | checker | murphi2c | murphi2cHeader | murphi2xml => exact .refl _ _ _

/-- Without a validator and with it, a job is performed alike. -/
theorem perform_confirmed {σ : Type} {runner : Runner σ} {alike : World σ → World σ → Prop}
    (blind : runner.Blind alike) (v : Validator) (config : Config)
    (facts facts' : Dictionary Literal) (job : Job) (w : World σ) :
    let p := job.perform runner (config.withValidator v false facts) w
    let q := job.perform runner (config.withValidator v true facts') w
    Confirmed v (v.program config.toolchain) p.result p.exchanges q.result q.exchanges := by
  intro p q
  by_cases htool : job.tool = .executable
  · have hchain : job.executableProcedure = Stage.chain job.executableStages "" := rfl
    simp only [p, q, perform, if_pos htool, hchain]
    exact Stage.perform_deferred blind (.refl _ _ _) "" (blind.refl w)
  · simp only [p, q, perform, if_neg htool]
    cases job.input.expectations.skipReason with
    | some reason => exact .same rfl rfl
    | none =>
      simp only [inScratch, procedure_eq_chain]
      exact Stage.perform_deferred blind (job.stages_deferred config v _) "" (blind.refl _)

/-- **A missing validator hides nothing and invents nothing**, against any runner whose answers do
not depend on the environment: without it and with it a job comes to the same and runs the same, or
it is skipped without it, and with it the validator is run once more and decides. So no failure that
is found without the validator disappears with it, and neither does a pass. -/
theorem missing_validator {σ : Type} {runner : Runner σ} {alike : World σ → World σ → Prop}
    (blind : runner.Blind alike) (v : Validator) (config : Config)
    (facts facts' : Dictionary Literal) (job : Job) (w : World σ) :
    let p := job.perform runner (config.withValidator v false facts) w
    let q := job.perform runner (config.withValidator v true facts') w
    (p.result = q.result ∧ p.exchanges.map Exchange.record = q.exchanges.map Exchange.record ∨
      ∃ reason call answer, p.result = .ok (.skip reason) ∧ reason ∈ v.reasons ∧
        call.program = v.program config.toolchain ∧
        q.exchanges.map Exchange.record = p.exchanges.map Exchange.record ++ [(call, answer)] ∧
        Decided answer q.result) ∧
      (∀ kind diagnostic, p.result = .ok (.fail kind diagnostic) →
        q.result = .ok (.fail kind diagnostic)) ∧
      (p.result = .ok .pass → q.result = .ok .pass) := by
  intro p q
  cases job.perform_confirmed blind v config facts facts' w with
  | same result records =>
    exact ⟨.inl ⟨result, records⟩, fun _ _ hfail => result ▸ hfail, fun hpass => result ▸ hpass⟩
  | decided skipped missing validator records result =>
    refine ⟨.inr ⟨_, _, _, skipped, missing, validator, records, result⟩, fun _ _ hfail => ?_,
      fun hpass => ?_⟩
    · exact nomatch skipped.symm.trans hfail
    · exact nomatch skipped.symm.trans hpass

end Job

/-! ## Rehearsals -/

/-- Rehearsals with the same files and the same answers still due, whatever they recorded. -/
def Rehearsal.Alike (w w' : World Rehearsal) : Prop :=
  w.files = w'.files ∧ w.state.script = w'.state.script

/-- A rehearsal records the environment of every call, and answers from its script alone. -/
theorem Rehearsal.blind_runner : runner.Blind Alike where
  refl := fun _ => ⟨rfl, rfl⟩
  answer_eq := by
    rintro w w' ⟨hfiles, hscript⟩ call environment environment'
    simp only [runner, hscript]
    split <;> rfl
  run := by
    rintro w w' ⟨hfiles, hscript⟩ call environment environment'
    simp only [runner, hscript]
    split <;> exact ⟨hfiles, rfl⟩
  write := by
    rintro w w' ⟨hfiles, hscript⟩ place content
    exact ⟨by rw [hfiles], hscript⟩

/-- A model that is skipped without the verifier of Uclid5, and that the verifier refuses. -/
theorem Job.missing_validator_of_refused :
    let job := Job.bare .murphi2uclid
    let w := Rehearsal.start [("uclid", [.output { exitCode := 1 }])]
    let p := job.perform Rehearsal.runner
      (Config.bare.withValidator .uclid false [("HAS_UCLID", .boolean false)]) w
    let q := job.perform Rehearsal.runner
      (Config.bare.withValidator .uclid true [("HAS_UCLID", .boolean true)]) w
    p.result.toOption = some (.skip "uclid not available for validation") ∧
      q.result.toOption = some (.fail .validation "uclid failed:\n") ∧
      ∃ call answer, call.program = "uclid" ∧
        q.exchanges.map Exchange.record = p.exchanges.map Exchange.record ++ [(call, answer)] := by
  intro job w p q
  have hp : p.result.toOption = some (.skip "uclid not available for validation") := by
    decide +kernel
  have hq : q.result.toOption = some (.fail .validation "uclid failed:\n") := by
    decide +kernel
  refine ⟨hp, hq, ?_⟩
  rcases (job.missing_validator Rehearsal.blind_runner .uclid Config.bare
    [("HAS_UCLID", .boolean false)] [("HAS_UCLID", .boolean true)] w).1 with
    ⟨hsame, -⟩ | ⟨_, call, answer, -, -, hprogram, hrecords, -⟩
  · exact absurd (hp.symm.trans ((congrArg Except.toOption hsame).trans hq)) (by decide)
  · exact ⟨call, answer, hprogram, hrecords⟩

end Conformance
