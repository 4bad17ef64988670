import Conformance.Proofs.SkipReason

/-!
# What a failure is put down to

A job fails by the process that was run last. The verdict carries what that process wrote, and its
kind says what was wrong: the memory checker reported a violation, the exit status was not the one
expected, the output of a checker lacks its pattern, or a validator refused what it was given. For
every stage of a job there is a risk: the process that is run, and what it has to leave behind for
the job to fail with a kind.

## Main definitions

* `Progress.Blames o fails`: a rule fails its job with these kinds, and carries the output
* `Risk`, `Job.risks`: how the stages of a job can fail it

## Main results

* `Job.stages_at_risk`: every stage has its risk and no other
* `Job.failure_attributed`: a job fails exactly by the risk of the process that was run last
-/

namespace Conformance

/-! ## Rules that fail a job -/

/-- A rule **blames** an output: it fails the job with exactly these kinds, and then what the
process wrote, standard output first, stands behind a headline. -/
structure Progress.Blames (p : Progress) (o : Output) (fails : FailureKind → Prop) : Prop where
  fails_iff : ∀ kind, (∃ diagnostic, p = .finished (.fail kind diagnostic)) ↔ fails kind
  carries : ∀ kind diagnostic, p = .finished (.fail kind diagnostic) →
    ∃ headline, diagnostic = headline ++ ":\n" ++ (o.stdout ++ o.stderr)

namespace Progress

variable {o : Output} {fails : FailureKind → Prop}

theorem Blames.congr {p : Progress} {fails' : FailureKind → Prop} (h : p.Blames o fails)
    (hfails : ∀ kind, fails kind ↔ fails' kind) : p.Blames o fails' :=
  ⟨fun kind => (h.fails_iff kind).trans (hfails kind), h.carries⟩

theorem blames_iff_of_not_fail {p : Progress}
    (h : ∀ kind diagnostic, p ≠ .finished (.fail kind diagnostic)) :
    p.Blames o fails ↔ ∀ kind, ¬ fails kind := by
  constructor
  · intro hp kind hfails
    obtain ⟨diagnostic, heq⟩ := (hp.fails_iff kind).mpr hfails
    exact h kind diagnostic heq
  · intro hnone
    refine ⟨fun kind => iff_of_false ?_ (hnone kind), fun kind diagnostic heq => ?_⟩
    · rintro ⟨diagnostic, heq⟩
      exact h kind diagnostic heq
    · exact absurd heq (h kind diagnostic)

@[simp] theorem blames_proceed : proceed.Blames o fails ↔ ∀ kind, ¬ fails kind :=
  blames_iff_of_not_fail nofun

@[simp] theorem blames_pass : (finished .pass).Blames o fails ↔ ∀ kind, ¬ fails kind :=
  blames_iff_of_not_fail nofun

@[simp] theorem blames_skip (reason : String) :
    (finished (.skip reason)).Blames o fails ↔ ∀ kind, ¬ fails kind :=
  blames_iff_of_not_fail nofun

@[simp] theorem blames_failed (kind : FailureKind) (headline : String) :
    (finished (.failed kind headline o)).Blames o fails ↔ ∀ k, fails k ↔ k = kind := by
  refine ⟨fun h k => ?_, fun h => ⟨fun k => ?_, ?_⟩⟩
  · simp [← h.fails_iff, Verdict.failed, eq_comm]
  · simp [h, Verdict.failed, eq_comm]
  · rintro k diagnostic heq
    obtain ⟨-, rfl⟩ := Verdict.fail.inj (Progress.finished.inj heq)
    exact ⟨headline, rfl⟩

end Progress

/-- The kinds with which a rule fails for an output that may be marked with a violation: the mark
comes before every other fault. -/
def Output.Faulty (o : Output) (fault : Prop) (kind : FailureKind) : Prop :=
  o.memoryViolation = true ∧ kind = .memorySafetyViolation ∨
    o.memoryViolation = false ∧ fault ∧ kind = .toolInvocation

section Rules

variable {stage headline : String} {o : Output} {expected : Int32}

theorem checkExit_blames :
    (checkExit stage o expected).Blames o (o.Faulty (o.exitCode ≠ expected)) := by
  unfold checkExit checkStatus
  split_ifs <;> simp_all [Output.Faulty, Verdict.memoryViolation, Verdict.unexpectedStatus]

theorem checkConversion_blames (stage : String) (o : Output) (mayFail : Bool)
    (unsupported : Option String) :
    (checkConversion stage o mayFail unsupported).Blames o
      (o.Faulty (o.exitCode ≠ 0 ∧ unsupported = none ∧ mayFail = false ∨
        o.exitCode = 0 ∧ unsupported.isSome = true)) := by
  unfold checkConversion
  cases unsupported <;> split_ifs <;>
    simp_all [Output.Faulty, Verdict.memoryViolation, Verdict.unexpectedStatus]

theorem checkValidation_blames :
    (Progress.finished (checkValidation headline o)).Blames o
      fun kind => o.exitCode ≠ 0 ∧ kind = .validation := by
  unfold checkValidation
  split_ifs with h <;> simp [h]

theorem classifyExecutable_blames :
    (Progress.finished (classifyExecutable o)).Blames o
      fun kind => (o.exitCode ≠ 0 ∧ o.exitCode ≠ 125) ∧ kind = .toolInvocation := by
  unfold classifyExecutable
  split_ifs with hpass hskip
  · simp [hpass]
  · simp [hskip, skipStatus]
  · rw [skipStatus] at hskip
    simp [hpass, hskip]

theorem needs_blames (available : Bool) (reason : String) (o : Output) :
    (needs available reason).Blames o fun _ => False := by
  cases available <;> simp [needs]

/-- What the checker printed lacks the pattern that is declared. -/
def Job.LacksPattern (job : Job) (o : Output) : Prop :=
  ∃ p ∈ job.input.expectations.checkerOutput, p.foundIn o.stdout = false

/-- The converter failed without a reason to, or it succeeded on what its target cannot express. -/
def Job.Misconverted (job : Job) (o : Output) : Prop :=
  o.exitCode ≠ 0 ∧ ¬ job.tool.Unsupported job.input.source ∧
      job.input.expectations.generatorStatus = 0 ∨
    o.exitCode = 0 ∧ job.tool.Unsupported job.input.source

theorem Job.outputMismatch?_cases (job : Job) (o : Output) :
    (∃ headline, job.outputMismatch? o = some (.failed .outputMismatch headline o)) ∧
        job.LacksPattern o ∨
      job.outputMismatch? o = none ∧ ¬ job.LacksPattern o := by
  unfold outputMismatch? LacksPattern
  cases job.input.expectations.checkerOutput with
  | none => exact .inr ⟨rfl, by simp⟩
  | some p =>
    cases hp : p.foundIn o.stdout with
    | true => exact .inr (by simp [hp])
    | false =>
      refine .inl ⟨⟨"checker output did not match /" ++ p.source ++ "/", ?_⟩, p, rfl, hp⟩
      simp [hp]

theorem Job.checkedAs_blames {job : Job} {config : Config} {v : Variant}
    (hm : o.memoryViolation = false) :
    (job.checkedAs config v o).Blames o fun kind =>
      o.exitCode ≠ job.input.expectations.checkerStatus ∧ kind = .toolInvocation ∨
        (o.exitCode = job.input.expectations.checkerStatus ∧ job.LacksPattern o) ∧
          kind = .outputMismatch := by
  unfold checkedAs
  by_cases hstatus : o.exitCode = job.input.expectations.checkerStatus
  · rw [checkStatus_eq_none_iff.mpr ⟨hm, hstatus⟩]
    rcases job.outputMismatch?_cases o with ⟨⟨headline, hp⟩, hlacks⟩ | ⟨hp, hlacks⟩
    · simp [hp, hlacks, hstatus]
    · rw [hp]
      dsimp only
      split_ifs
      · cases config.hasXmllint <;> simp [needs, hlacks, hstatus]
      · simp [hlacks, hstatus]
  · simp [checkStatus, hm, hstatus, Verdict.unexpectedStatus]

/-- Behind a converter nothing but the conversion itself is blamed. -/
theorem Job.convertStage_blames {job : Job} (stage : String) (program : Path)
    (flags : List String) {further : Progress} (hfurther : further.Blames o fun _ => False) :
    ((job.convertStage stage program flags further).check o).Blames o
      (o.Faulty (job.Misconverted o)) := by
  have hconversion := checkConversion_blames stage o
    (job.input.expectations.generatorStatus != 0) (job.tool.unsupported? job.input.source)
  rw [bne_eq_false_iff_eq, Tool.unsupported?_eq_none_iff, Tool.unsupported?_isSome_iff]
    at hconversion
  show ((checkConversion stage o (job.input.expectations.generatorStatus != 0)
    (job.tool.unsupported? job.input.source)).and further).Blames o _
  cases hcheck : checkConversion stage o (job.input.expectations.generatorStatus != 0)
      (job.tool.unsupported? job.input.source) with
  | finished verdict =>
    rw [hcheck] at hconversion
    exact hconversion
  | proceed =>
    -- the conversion blames nothing, and neither does what follows
    rw [hcheck, Progress.blames_proceed] at hconversion
    exact hfurther.congr fun kind => iff_of_false not_false (hconversion kind)

end Rules

/-! ## The risks of a job -/

/-- What can fail a job at one of its stages. -/
structure Risk where
  /-- The process that is run, given the standard output of the one before. -/
  call : String → Invocation
  /-- The kinds with which the job fails for an output. -/
  fails : Output → FailureKind → Prop

/-- A failure of one kind for every exit status but the expected one. -/
def failsUnless (expected : Int32) (kind : FailureKind) (o : Output) (k : FailureKind) : Prop :=
  o.exitCode ≠ expected ∧ k = kind

/-- The failures of the run that the memory checker watches. -/
def Config.failsWatched (config : Config) (fault : Output → Prop) (o : Output)
    (kind : FailureKind) : Prop :=
  config.Violated o ∧ kind = .memorySafetyViolation ∨
    ¬ config.Violated o ∧ fault o ∧ kind = .toolInvocation

namespace Job

/-- What can fail a job, stage by stage. -/
def risks (job : Job) (config : Config) (scratch : Path) : List Risk :=
  match job.tool with
  | .executable =>
    [{ call := fun _ => { program := job.input.path }
       fails := fun o kind => (o.exitCode ≠ 0 ∧ o.exitCode ≠ 125) ∧ kind = .toolInvocation }]
  | .checker v =>
    [{ call := fun _ => config.prepare (job.generate config v (Path.join scratch "model.c"))
       fails := config.failsWatched fun o =>
         o.exitCode ≠ job.input.expectations.generatorStatus },
     { call := fun _ => job.compileChecker config v (Path.join scratch "model.c")
         (Path.join scratch "model.exe")
       fails := failsUnless job.input.expectations.compilerStatus .toolInvocation },
     { call := fun _ => { program := Path.join scratch "model.exe" }
       fails := fun o kind =>
         o.exitCode ≠ job.input.expectations.checkerStatus ∧ kind = .toolInvocation ∨
           (o.exitCode = job.input.expectations.checkerStatus ∧ job.LacksPattern o) ∧
             kind = .outputMismatch },
     { call := validateXml config config.toolchain.verifierSchema
       fails := failsUnless 0 .validation }]
  | .murphi2c =>
    [{ call := fun _ => config.prepare (job.convertCall config.toolchain.murphi2c [])
       fails := config.failsWatched job.Misconverted },
     { call := fun _ => compileConverted config (Path.join scratch "model.c")
         (Path.join scratch "model.o")
       fails := failsUnless job.input.expectations.compilerStatus .toolInvocation }]
  | .murphi2cHeader =>
    [{ call := fun _ => config.prepare (job.convertCall config.toolchain.murphi2c ["--header"])
       fails := config.failsWatched job.Misconverted },
     { call := fun _ => compileHeaderC config (Path.join scratch "header.h")
         (Path.join scratch "header-c.out")
       fails := failsUnless 0 .toolInvocation },
     { call := fun _ => compileHeaderCxx config (Path.join scratch "header.h")
         (Path.join scratch "header-cxx.out")
       fails := failsUnless 0 .toolInvocation }]
  | .murphi2uclid =>
    [{ call := fun _ => config.prepare (job.convertCall config.toolchain.murphi2uclid [])
       fails := config.failsWatched job.Misconverted },
     { call := fun _ =>
         { program := config.toolchain.uclid, args := [Path.join scratch "source.ucl"] }
       fails := failsUnless 0 .validation }]
  | .murphi2xml =>
    [{ call := fun _ => config.prepare (job.convertCall config.toolchain.murphi2xml [])
       fails := config.failsWatched job.Misconverted },
     { call := validateXml config config.toolchain.murphi2xmlSchema
       fails := failsUnless 0 .validation }]

end Job

/-- The stage fails its job by this risk and no other. -/
structure Stage.AtRisk (config : Config) (s : Stage) (risk : Risk) : Prop where
  call_eq : ∀ before, config.prepare (s.call before) = risk.call before
  blames : ∀ before o,
    (s.check (config.interpret (s.call before) o)).Blames o (risk.fails o)

section AtRisk

variable {config : Config} {file? : Option String} {call : String → Invocation}
  {check : Output → Progress}

/-- What is blamed on an output as the rule is given it is blamed on what the process wrote. -/
theorem Progress.Blames.of_interpret {p : Progress} {i : Invocation} {o : Output}
    {fails : FailureKind → Prop} (h : p.Blames (config.interpret i o) fails) : p.Blames o fails :=
  ⟨h.fails_iff, h.carries⟩

/-- A stage that the memory checker watches, with a rule that puts a violation first. -/
theorem Stage.atRisk_of_watched {i : Invocation} (hi : i.instrument = true)
    {fault : Output → Prop}
    (hblames : ∀ o, (check (config.interpret i o)).Blames (config.interpret i o)
      ((config.interpret i o).Faulty (fault o))) :
    Stage.AtRisk config ⟨file?, fun _ => i, check⟩
      ⟨fun _ => config.prepare i, config.failsWatched fault⟩ where
  call_eq := fun _ => rfl
  blames := fun _ o => by
    have hviolated : (config.interpret i o).memoryViolation = false ↔ ¬ config.Violated o :=
      Config.interpret_memoryViolation_eq_false hi
    have hmarked : (config.interpret i o).memoryViolation = true ↔ config.Violated o := by
      rw [← Bool.not_eq_false, hviolated, not_not]
    have hfaulty : ∀ kind, (config.interpret i o).Faulty (fault o) kind ↔
        config.failsWatched fault o kind := fun kind => by
      rw [Output.Faulty, hviolated, hmarked]
      rfl
    exact (hblames o).of_interpret.congr hfaulty

/-- A stage that no memory checker watches. -/
theorem Stage.atRisk_of_not_instrument {fails : Output → FailureKind → Prop}
    (hi : ∀ before, (call before).instrument = false)
    (hblames : ∀ o : Output, (check o.unwatched).Blames o.unwatched (fails o)) :
    Stage.AtRisk config ⟨file?, call, check⟩ ⟨call, fails⟩ where
  call_eq := fun before => config.prepare_of_not_instrument (hi before)
  blames := fun before o => by
    have h := hblames o
    rw [← config.interpret_of_not_instrument (hi before)] at h
    exact h.of_interpret

theorem Stage.atRisk_of_checkExit {stage : String} {expected : Int32}
    (hi : ∀ before, (call before).instrument = false) :
    Stage.AtRisk config ⟨file?, call, fun o => checkExit stage o expected⟩
      ⟨call, failsUnless expected .toolInvocation⟩ := by
  refine Stage.atRisk_of_not_instrument hi fun o => checkExit_blames.congr fun kind => ?_
  simp [Output.Faulty, failsUnless]

theorem Stage.atRisk_of_checkValidation {headline : String}
    (hi : ∀ before, (call before).instrument = false) :
    Stage.AtRisk config ⟨file?, call, fun o => .finished (checkValidation headline o)⟩
      ⟨call, failsUnless 0 .validation⟩ :=
  Stage.atRisk_of_not_instrument hi fun _ => checkValidation_blames

end AtRisk

namespace Job

variable {job : Job} {config : Config} {scratch : Path}

theorem convertStage_atRisk {stage : String} {program : Path} {flags : List String}
    {further : Progress} (hfurther : ∀ o, further.Blames o fun _ => False) :
    (job.convertStage stage program flags further).AtRisk config
      ⟨fun _ => config.prepare (job.convertCall program flags),
        config.failsWatched job.Misconverted⟩ :=
  Stage.atRisk_of_watched rfl fun _ => convertStage_blames stage program flags (hfurther _)

/-- **Every stage of a job has its risk**, and fails the job by no other. -/
theorem stages_at_risk (job : Job) (config : Config) (scratch : Path) :
    List.Forall₂ (Stage.AtRisk config) (job.stages config scratch) (job.risks config scratch) := by
  have honward : ∀ o : Output, Progress.proceed.Blames o fun _ => False := fun o => by simp
  unfold stages risks
  cases job.tool with
  | executable =>
    refine .cons ?_ .nil
    exact Stage.atRisk_of_not_instrument (fun _ => rfl) fun _ => classifyExecutable_blames
  | checker v =>
    refine .cons ?_ (.cons ?_ (.cons ?_ (.cons ?_ .nil)))
    · exact Stage.atRisk_of_watched rfl fun _ => checkExit_blames
    · exact Stage.atRisk_of_checkExit fun _ => rfl
    · exact Stage.atRisk_of_not_instrument (fun _ => rfl) fun _ => checkedAs_blames rfl
    · exact Stage.atRisk_of_checkValidation fun _ => rfl
  | murphi2c =>
    exact .cons (convertStage_atRisk honward)
      (.cons (Stage.atRisk_of_checkExit fun _ => rfl) .nil)
  | murphi2cHeader =>
    exact .cons (convertStage_atRisk honward)
      (.cons (Stage.atRisk_of_checkExit fun _ => rfl)
        (.cons (Stage.atRisk_of_checkExit fun _ => rfl) .nil))
  | murphi2uclid =>
    exact .cons (convertStage_atRisk (needs_blames _ _))
      (.cons (Stage.atRisk_of_checkValidation fun _ => rfl) .nil)
  | murphi2xml =>
    exact .cons (convertStage_atRisk (needs_blames _ _))
      (.cons (Stage.atRisk_of_checkValidation fun _ => rfl) .nil)

/-- The risk of a stage, and the stage of a risk. -/
theorem atRisk_of_stage {n : Nat} {s : Stage} (hs : (job.stages config scratch)[n]? = some s) :
    ∃ risk, (job.risks config scratch)[n]? = some risk ∧ s.AtRisk config risk := by
  obtain ⟨hn, rfl⟩ := List.getElem?_eq_some_iff.mp hs
  have hlen := (job.stages_at_risk config scratch).length_eq
  exact ⟨_, List.getElem?_eq_getElem (hlen ▸ hn), (job.stages_at_risk config scratch).get hn _⟩

theorem atRisk_of_risk {n : Nat} {risk : Risk}
    (hrisk : (job.risks config scratch)[n]? = some risk) :
    ∃ s, (job.stages config scratch)[n]? = some s ∧ s.AtRisk config risk := by
  obtain ⟨hn, rfl⟩ := List.getElem?_eq_some_iff.mp hrisk
  have hlen := (job.stages_at_risk config scratch).length_eq
  exact ⟨_, List.getElem?_eq_getElem (hlen ▸ hn), (job.stages_at_risk config scratch).get _ hn⟩

/-! ## The performance -/

variable {σ : Type}

/-- **Every failure is put down to the process that was run last** and carries what that process
wrote, standard output first. The process is that of a stage of the job, and it fails the job with a
kind exactly by the risk of its stage. -/
theorem failure_attributed (runner : Runner σ) (config : Config) (job : Job) (w : World σ) :
    let p := job.perform runner config w
    (∀ kind diagnostic, p.result = .ok (.fail kind diagnostic) →
      ∃ n risk o headline, (job.risks config w.scratchPath)[n]? = some risk ∧
        p.exchanges.length = n + 1 ∧
        Ran p.exchanges n (risk.call (stdoutBefore "" p.exchanges n)) o ∧ risk.fails o kind ∧
        diagnostic = headline ++ ":\n" ++ (o.stdout ++ o.stderr)) ∧
    ∀ n risk call o kind, (job.risks config w.scratchPath)[n]? = some risk →
      Ran p.exchanges n call o → risk.fails o kind →
      ∃ diagnostic, p.result = .ok (.fail kind diagnostic) := by
  intro p
  rcases job.perform_cases runner config w with ⟨-, h⟩ | ⟨reason, -, -, hperform⟩
  · constructor
    · -- the stage that settled the verdict is the last that was run
      intro kind diagnostic hr
      obtain ⟨n, s, x, o, hs, hx, hlen, ho, hcheck⟩ := h.settled_by_last hr nofun
      obtain ⟨t, ht, hcall⟩ := h.call_eq hx
      obtain rfl : s = t := Option.some.inj (hs.symm.trans ht)
      obtain ⟨risk, hrisk, hat⟩ := atRisk_of_stage hs
      have hblames := hat.blames (stdoutBefore "" p.exchanges n) o
      obtain ⟨headline, hdiagnostic⟩ := hblames.carries kind diagnostic hcheck
      exact ⟨n, risk, o, headline, hrisk, hlen, ⟨x, hx, hcall.trans (hat.call_eq _), ho⟩,
        (hblames.fails_iff kind).mp ⟨diagnostic, hcheck⟩, hdiagnostic⟩
    · intro n risk call o kind hrisk hran hfails
      obtain ⟨s, hs, hat⟩ := atRisk_of_risk hrisk
      obtain ⟨diagnostic, hcheck⟩ :=
        ((hat.blames (stdoutBefore "" p.exchanges n) o).fails_iff kind).mpr hfails
      exact ⟨diagnostic, (h.settled_at hs hran hcheck).1⟩
  · -- a model that is to be skipped does not fail, and nothing of it is run
    simp only [p, hperform]
    refine ⟨nofun, fun n risk call o kind _ hran => ?_⟩
    exact absurd hran (ran_nil n call o)

/-- The converter succeeds, and the failure is that of the compiler with what the compiler wrote. -/
example :
    ((Job.bare .murphi2c).perform Runner.ofAnswers Config.bare
      (World.answering [.ok { stdout := "int x;" },
        .ok { exitCode := 1, stdout := "note", stderr := "error" }])).result =
      .ok (.fail .toolInvocation "unexpected C compiler exit status 1:\nnoteerror") := by
  rfl

end Job

end Conformance
