import Conformance.Proofs.MemoryViolation
import Conformance.Proofs.OptionalValidator

/-!
# The memory checker is transparent

The memory checker is put around the first run of a model. Beneath it everything is as without it:
a runner that takes the wrapper off the first call, and answers as another one answers the command
inside, is asked for the same processes with the same input, and the job comes to the same, to the
letter of its diagnostic. The one exception is the exit status by which the memory checker itself
reports a violation.

## Main definitions

* `Config.withValgrind`: a configuration with another word on the memory checker
* `Invocation.wrappedBy`, `Invocation.unwrapped`: the memory checker put around a command and taken
  off it
* `Runner.Unaware alike`: a runner whose answers depend neither on the environment nor on whether a
  call is to be instrumented
* `Runner.unwrapping`: the runner that takes the wrapper off the first call

## Main results

* `Stage.perform_unwatched`: stages that are not instrumented are performed alike
* `Stage.perform_watched`: so are a stage that is instrumented and those behind it, but for a
  violation
* `Job.instrumentation_transparent`: what the memory checker changes for a job
-/

namespace Conformance

/-! ## Two configurations -/

namespace Config

/-- The configuration with another word on whether the memory checker is there, stated by other
facts. -/
def withValgrind (config : Config) (available : Bool) (facts : Dictionary Literal) : Config :=
  config.withFlag .valgrind available facts

end Config

/-! ## The wrapper -/

namespace Invocation

/-- The same command, not to be instrumented. -/
def unmarked (i : Invocation) : Invocation :=
  { i with instrument := false }

theorem unmarked_of_not_instrument {i : Invocation} (h : i.instrument = false) :
    i.unmarked = i := by
  rw [unmarked, ← h]

/-- The memory checker around a command: the command and its arguments stand behind the arguments of
the memory checker, and the input of the command is passed through. -/
def wrappedBy (i : Invocation) (checker : Path) : Invocation :=
  { program := checker, args := memoryCheckerArgs ++ i.program :: i.args, stdin := i.stdin }

/-- The command inside the memory checker. -/
def unwrapped (i : Invocation) : Invocation :=
  match i.args.drop memoryCheckerArgs.length with
  | [] => i
  | program :: args => { program, args, stdin := i.stdin }

@[simp] theorem unwrapped_wrappedBy (i : Invocation) (checker : Path) :
    (i.wrappedBy checker).unwrapped = i.unmarked := by
  simp [wrappedBy, unwrapped, unmarked]

end Invocation

namespace Config

variable {config : Config} {i : Invocation} {o : Output}

theorem prepare_of_instrument (hi : i.instrument = true) (hvalgrind : config.hasValgrind = true) :
    config.prepare i = i.wrappedBy config.toolchain.valgrind := by
  simp [prepare, wraps, hi, hvalgrind, Invocation.wrappedBy]

theorem prepare_of_not_valgrind (h : config.hasValgrind = false) (i : Invocation) :
    config.prepare i = i := by
  simp [prepare, wraps, h]

/-- Only the status of a violation tells the output of a watched process from that of another. -/
theorem interpret_eq_unwatched (h : config.hasValgrind = false ∨ o.exitCode ≠ 42) :
    config.interpret i o = o.unwatched := by
  have hmark : (config.wraps i && o.exitCode == violationStatus) = false := by
    rcases h with h | h <;> simp [wraps, h, violationStatus]
  rw [interpret, hmark]
  rfl

end Config

/-- Calls with their answers, the first call under the memory checker if that is due. -/
def wrapFirst (checker : Path) (due : Bool)
    (calls : List (Invocation × Except SpawnFailure Output)) :
    List (Invocation × Except SpawnFailure Output) :=
  if due then calls.modifyHead fun (call, answer) => (call.wrappedBy checker, answer) else calls

/-! ## Runners -/

variable {σ : Type}

/-- **A runner that is not aware of instrumentation**: in worlds that are alike its answers depend
neither on the environment nor on whether a call is to be instrumented, and it leaves worlds that
are alike. They may depend on all that was asked of it before. -/
structure Runner.Unaware (runner : Runner σ) (alike : World σ → World σ → Prop) : Prop where
  refl : ∀ w, alike w w
  answer_eq : ∀ {w w'}, alike w w' → ∀ call environment environment',
    (runner.run call environment w).1 = (runner.run call.unmarked environment' w').1
  run : ∀ {w w'}, alike w w' → ∀ call environment environment',
    alike (runner.run call environment w).2 (runner.run call.unmarked environment' w').2
  write : ∀ {w w'}, alike w w' → ∀ place content,
    alike { w with files := w.files.write place content }
      { w' with files := w'.files.write place content }

/-- The world in which the wrapper is due to be taken off the next call, or is not. -/
def World.due (w : World σ) (due : Bool) : World (Bool × σ) :=
  ⟨w.files, due, w.state⟩

/-- The world as the runner beneath knows it. -/
def World.beneath (w : World (Bool × σ)) : World σ :=
  ⟨w.files, w.state.2⟩

/-- What the runner beneath is asked in place of a call. -/
def World.asked (w : World (Bool × σ)) (call : Invocation) : Invocation :=
  if w.state.1 then call.unwrapped else call

/-- **The runner that takes the wrapper off the first call**, if that is due. The runner beneath
answers the command inside, and every other call as it is. -/
def Runner.unwrapping (runner : Runner σ) : Runner (Bool × σ) where
  run call environment w :=
    let (answer, u) := runner.run (w.asked call) environment w.beneath
    (answer, u.due false)
  clock w := runner.clock w.beneath

/-- One run of either runner, in worlds that are alike beneath. -/
theorem Runner.Unaware.run_cases {runner : Runner σ} {alike : World σ → World σ → Prop}
    (unaware : runner.Unaware alike) {w : World σ} {w' : World (Bool × σ)}
    (hw : alike w w'.beneath) {call call' : Invocation} (hcall : w'.asked call' = call.unmarked)
    (environment environment' : Environment) :
    ∃ answer u u', runner.run call environment w = (answer, u) ∧
      runner.unwrapping.run call' environment' w' = (answer, u') ∧ alike u u'.beneath ∧
      u'.state.1 = false := by
  refine ⟨_, _, (runner.unwrapping.run call' environment' w').2, rfl, Prod.ext ?_ rfl, ?_, rfl⟩
  · rw [unaware.answer_eq hw call environment environment', ← hcall]
    rfl
  · have hrun := unaware.run hw call environment environment'
    rw [← hcall] at hrun
    exact hrun

/-! ## Two performances -/

section Performance

variable {runner : Runner σ} {alike : World σ → World σ → Prop} (unaware : runner.Unaware alike)
  {plain watched : Config} {scratch : Place} {w : World σ} {w' : World (Bool × σ)}

include unaware

theorem Runner.Unaware.enter (hw : alike w w'.beneath) (s : Stage) (scratch : Place)
    (before : String) : alike (s.enter scratch before w) (s.enter scratch before w').beneath := by
  unfold Stage.enter
  cases s.file? with
  | none => exact hw
  | some name => exact unaware.write hw _ _

/-- One stage of a chain under either runner: the process of the stage gets one answer, and behind
it the wrapper is not due any more. -/
theorem Stage.perform_cons_cases {s : Stage} (rest : List Stage) {before : String}
    (scratch : Place) (hw : alike w w'.beneath)
    (hcall : w'.asked (watched.prepare (s.call before)) =
      (plain.prepare (s.call before)).unmarked) :
    let p := (chain (s :: rest) before).perform runner plain scratch w
    let q := (chain (s :: rest) before).perform runner.unwrapping watched scratch w'
    (∃ failure, p.result = .error (.spawn failure) ∧ q.result = .error (.spawn failure) ∧
        p.exchanges = [plain.exchange (s.call before) (.error failure)] ∧
        q.exchanges = [watched.exchange (s.call before) (.error failure)]) ∨
      ∃ o u u', alike u u'.beneath ∧ u'.state.1 = false ∧
        let p' := ((s.check (plain.interpret (s.call before) o)).andThen
          (chain rest o.stdout)).perform runner plain scratch u
        let q' := ((s.check (watched.interpret (s.call before) o)).andThen
          (chain rest o.stdout)).perform runner.unwrapping watched scratch u'
        p.result = p'.result ∧ q.result = q'.result ∧
          p.exchanges = plain.exchange (s.call before) (.ok o) :: p'.exchanges ∧
          q.exchanges = watched.exchange (s.call before) (.ok o) :: q'.exchanges := by
  intro p q
  have hasked : (s.enter scratch before w').asked (watched.prepare (s.call before)) =
      (plain.prepare (s.call before)).unmarked := by
    rw [← hcall, World.asked, World.asked, enter_state]
  obtain ⟨answer, u, u', hrun, hrun', hu, hdue⟩ := unaware.run_cases
    (unaware.enter hw s scratch before) hasked plain.environment watched.environment
  simp only [p, q, perform_cons]
  cases answer with
  | error failure =>
    rw [Procedure.perform_run_error scratch _ hrun, Procedure.perform_run_error scratch _ hrun']
    exact .inl ⟨failure, rfl, rfl, rfl, rfl⟩
  | ok o =>
    rw [Procedure.perform_run_ok scratch _ hrun, Procedure.perform_run_ok scratch _ hrun']
    exact .inr ⟨o, u, u', hu, hdue, rfl, rfl, rfl, rfl⟩

/-- **Stages that are not instrumented are performed alike**, whatever the two configurations. -/
theorem Stage.perform_unwatched {stages : List Stage}
    (hstages : ∀ s ∈ stages, ∀ before, (s.call before).instrument = false) (before : String)
    (hw : alike w w'.beneath) (hdue : w'.state.1 = false) :
    let p := (chain stages before).perform runner plain scratch w
    let q := (chain stages before).perform runner.unwrapping watched scratch w'
    q.result = p.result ∧ q.exchanges.map Exchange.record = p.exchanges.map Exchange.record := by
  -- from stage to stage the worlds stay alike beneath, and no wrapper comes to be due
  induction stages generalizing before w w' with
  | nil => exact ⟨rfl, rfl⟩
  | cons s rest ih =>
    have hi := hstages s List.mem_cons_self before
    have hplain := plain.prepare_of_not_instrument hi
    have hwatched := watched.prepare_of_not_instrument hi
    have hcall : w'.asked (watched.prepare (s.call before)) =
        (plain.prepare (s.call before)).unmarked := by
      rw [hplain, hwatched, Invocation.unmarked_of_not_instrument hi, World.asked, hdue]
      rfl
    intro p q
    rcases Stage.perform_cons_cases unaware rest scratch hw hcall with ⟨failure, hp, hq, hpx, hqx⟩ |
      ⟨o, u, u', hu, hdue', hp, hq, hpx, hqx⟩
    · simp only [p, q, hp, hq, hpx, hqx]
      simp [hplain, hwatched]
    · rw [plain.interpret_of_not_instrument hi] at hp hpx
      rw [watched.interpret_of_not_instrument hi] at hq hqx
      simp only [p, q, hp, hq, hpx, hqx, List.map_cons, Config.record_exchange, hplain, hwatched]
      cases s.check o.unwatched with
      | finished verdict => exact ⟨rfl, rfl⟩
      | proceed =>
        obtain ⟨hresult, hrecords⟩ :=
          ih (fun t ht => hstages t (List.mem_cons_of_mem s ht)) o.stdout hu hdue'
        exact ⟨hresult, congrArg _ hrecords⟩

/-- **Stages of which only the first is instrumented are performed alike**, but for a violation: the
first process gets the same answer under the memory checker, and if that has not the status of a
violation, everything behind it is the same. -/
theorem Stage.perform_watched {stages : List Stage} {before : String}
    (hfirst : ∀ s ∈ stages.head?, ∀ before, (s.call before).instrument = true)
    (hrest : ∀ s ∈ stages.tail, ∀ before, (s.call before).instrument = false)
    (hoff : plain.hasValgrind = false) (hon : watched.hasValgrind = true)
    (hw : alike w w'.beneath) (hdue : w'.state.1 = true) :
    let p := (chain stages before).perform runner plain scratch w
    let q := (chain stages before).perform runner.unwrapping watched scratch w'
    let wrap := wrapFirst watched.toolchain.valgrind true
    (q.exchanges.map Exchange.record).take 1 =
        wrap ((p.exchanges.map Exchange.record).take 1) ∧
      ((∀ call o, Ran p.exchanges 0 call o → o.exitCode ≠ 42) → q.result = p.result ∧
        q.exchanges.map Exchange.record = wrap (p.exchanges.map Exchange.record)) := by
  intro p q wrap
  cases stages with
  | nil => exact ⟨rfl, fun _ => ⟨rfl, rfl⟩⟩
  | cons s rest =>
    have hplain := plain.prepare_of_not_valgrind hoff (s.call before)
    have hwatched := Config.prepare_of_instrument (hfirst s rfl before) hon
    have hcall : w'.asked (watched.prepare (s.call before)) =
        (plain.prepare (s.call before)).unmarked := by
      rw [hplain, hwatched, World.asked, hdue, if_pos rfl, Invocation.unwrapped_wrappedBy]
    rcases Stage.perform_cons_cases unaware rest scratch hw hcall with
      ⟨failure, hp, hq, hpx, hqx⟩ | ⟨o, u, u', hu, hdue', hp, hq, hpx, hqx⟩
    · simp only [p, q, hp, hq, hpx, hqx]
      simp [wrap, wrapFirst, hplain, hwatched]
    · simp only [p, q, hp, hq, hpx, hqx, List.map_cons, Config.record_exchange, hplain, hwatched]
      refine ⟨by simp [wrap, wrapFirst], fun hcode => ?_⟩
      -- without that status the rule of the stage is given the same output twice
      have hno : o.exitCode ≠ 42 := hcode _ o ((ran_exchange_zero ..).mpr ⟨rfl, rfl⟩)
      rw [Config.interpret_eq_unwatched (.inl hoff), Config.interpret_eq_unwatched (.inr hno)]
      cases s.check o.unwatched with
      | finished verdict => exact ⟨rfl, by simp [wrap, wrapFirst]⟩
      | proceed =>
        obtain ⟨hresult, hrecords⟩ := Stage.perform_unwatched unaware hrest o.stdout hu hdue'
        refine ⟨hresult, ?_⟩
        simp only [wrap, wrapFirst, if_pos, List.modifyHead_cons]
        exact congrArg _ hrecords

end Performance

/-! ## The jobs -/

/-- A process was run first exactly if the record begins with it and its output. -/
theorem ran_zero_iff {xs : List Exchange} {call : Invocation} {o : Output} :
    Ran xs 0 call o ↔ (xs.map Exchange.record).take 1 = [(call, .ok o)] := by
  cases xs <;> simp [Ran, Exchange.record]

namespace Job

variable {job : Job} {config : Config} {scratch : Path}

/-- What the stages of a job are does not depend on the memory checker. -/
theorem stages_withValgrind (job : Job) (config : Config) (available : Bool)
    (facts : Dictionary Literal) (scratch : Path) :
    job.stages (config.withValgrind available facts) scratch = job.stages config scratch := by
  unfold stages
  cases job.tool <;> rfl

theorem not_instrument_of_executable (htool : job.tool = .executable) :
    ∀ s ∈ job.stages config scratch, ∀ before, (s.call before).instrument = false := by
  intro s hs before
  obtain ⟨n, hn⟩ := List.mem_iff_getElem?.mp hs
  rw [instrument_eq hn before]
  exact decide_eq_false fun h => h.2 htool

/-- The first stage of a model is instrumented. -/
theorem instrument_of_head (htool : job.tool ≠ .executable) :
    ∀ s ∈ (job.stages config scratch).head?, ∀ before, (s.call before).instrument = true := by
  intro s hs before
  rw [List.head?_eq_getElem?] at hs
  rw [instrument_eq hs before]
  exact decide_eq_true ⟨rfl, htool⟩

theorem not_instrument_of_tail :
    ∀ s ∈ (job.stages config scratch).tail, ∀ before, (s.call before).instrument = false := by
  intro s hs before
  obtain ⟨n, hn⟩ := List.mem_iff_getElem?.mp hs
  rw [List.getElem?_tail] at hn
  rw [instrument_eq hn before]
  exact decide_eq_false fun h => nomatch h.1

/-- The first run of a model, that of the generator or the converter, ended with the status by which
the memory checker reports a violation. -/
def ViolatedFirst (job : Job) (xs : List Exchange) : Prop :=
  job.tool ≠ .executable ∧ ∃ call o, Ran xs 0 call o ∧ o.exitCode = 42

section Performance

variable {σ : Type} {runner : Runner σ} {alike : World σ → World σ → Prop}
  (unaware : runner.Unaware alike) (config : Config) (facts facts' : Dictionary Literal)
  (w : World σ)

include unaware

/-- A test program is not instrumented, and is performed alike. -/
theorem perform_unwatched (htool : job.tool = .executable) :
    let p := job.perform runner (config.withValgrind false facts) w
    let q := job.perform runner.unwrapping (config.withValgrind true facts') (w.due false)
    q.result = p.result ∧ q.exchanges.map Exchange.record = p.exchanges.map Exchange.record := by
  have hchain : job.executableProcedure = Stage.chain (job.stages config "") "" := by
    rw [stages, htool]
    rfl
  intro p q
  simp only [p, q, perform, if_pos htool, hchain]
  exact Stage.perform_unwatched unaware (not_instrument_of_executable htool) ""
    (unaware.refl w) rfl

/-- The first run of a model is instrumented, and what follows is performed alike, but for a
violation. -/
theorem perform_watched (htool : job.tool ≠ .executable)
    (undeclared : job.input.expectations.skipReason = none) :
    let p := job.perform runner (config.withValgrind false facts) w
    let q := job.perform runner.unwrapping (config.withValgrind true facts') (w.due true)
    let wrap := wrapFirst config.toolchain.valgrind true
    (q.exchanges.map Exchange.record).take 1 =
        wrap ((p.exchanges.map Exchange.record).take 1) ∧
      ((∀ call o, Ran p.exchanges 0 call o → o.exitCode ≠ 42) → q.result = p.result ∧
        q.exchanges.map Exchange.record = wrap (p.exchanges.map Exchange.record)) := by
  intro p q wrap
  simp only [p, q, wrap, perform, if_neg htool, undeclared, inScratch, procedure_eq_chain,
    stages_withValgrind]
  exact Stage.perform_watched unaware (instrument_of_head htool) not_instrument_of_tail rfl rfl
    (unaware.refl _) rfl

end Performance

/-- **The memory checker is transparent**, against any runner that is not aware of it, however that
depends on what was asked of it before. The runner that takes the wrapper off the first call of a
model answers as that one does beneath. Under it and with the memory checker a job comes to the same
as under the other and without, and runs the same, its first call under the memory checker. Only if
the generator or the converter of a model ends with the status of a violation, a violation is
reported, and nothing is run but that first call. -/
theorem instrumentation_transparent {runner : Runner σ} {alike : World σ → World σ → Prop}
    (unaware : runner.Unaware alike) (config : Config) (facts facts' : Dictionary Literal)
    (job : Job) (w : World σ) :
    let p := job.perform runner (config.withValgrind false facts) w
    let due := decide (job.tool ≠ .executable)
    let q := job.perform runner.unwrapping (config.withValgrind true facts') (w.due due)
    let wrap := wrapFirst config.toolchain.valgrind due
    (¬ job.ViolatedFirst p.exchanges → q.result = p.result ∧
        q.exchanges.map Exchange.record = wrap (p.exchanges.map Exchange.record)) ∧
      (job.ViolatedFirst p.exchanges →
        (∃ diagnostic, q.result = .ok (.fail .memorySafetyViolation diagnostic)) ∧
          q.exchanges.length = 1 ∧ q.exchanges.map Exchange.record =
            wrap ((p.exchanges.map Exchange.record).take 1)) := by
  intro p due q wrap
  by_cases htool : job.tool = .executable
  · have hdue : due = false := decide_eq_false fun h => h htool
    refine ⟨fun _ => ?_, fun h => absurd htool h.1⟩
    simp only [q, wrap, hdue]
    exact perform_unwatched unaware config facts facts' w htool
  have hdue : due = true := decide_eq_true htool
  simp only [q, wrap, hdue]
  cases hskip : job.input.expectations.skipReason with
  | some reason =>
    -- neither job begins
    simp only [p, perform_of_declared _ _ _ htool hskip]
    refine ⟨fun _ => ⟨trivial, rfl⟩, ?_⟩
    rintro ⟨-, call, o, hran, -⟩
    exact absurd hran (ran_nil 0 call o)
  | none =>
    obtain ⟨hfirst, hrest⟩ := perform_watched unaware config facts facts' w htool hskip
    constructor
    · intro hno
      exact hrest fun call o hran hcode => hno ⟨htool, call, o, hran, hcode⟩
    · rintro ⟨-, call, o, hran, hcode⟩
      have hcourse := course_of_undeclared runner.unwrapping (config.withValgrind true facts')
        (w.due true) (.inr hskip)
      -- beneath the memory checker the first process ended with the same status
      rw [ran_zero_iff.mp hran] at hfirst
      have hran' := ran_zero_iff.mpr hfirst
      obtain ⟨v, hr, diagnostic, rfl⟩ := isViolation_of_watched hcourse htool rfl hran' hcode
      have hlen := (watched_of_isViolation hcourse hr ⟨diagnostic, rfl⟩).2.2.1
      refine ⟨⟨diagnostic, hr⟩, hlen, ?_⟩
      rw [ran_zero_iff.mp hran, ← hfirst, List.take_of_length_le (by simp [hlen])]

end Job

/-! ## Rehearsals -/

/-- A rehearsal answers by the program of a call alone. -/
theorem Rehearsal.unaware_runner : runner.Unaware Alike where
  refl := blind_runner.refl
  answer_eq := by
    rintro w w' ⟨hfiles, hscript⟩ call environment environment'
    simp only [runner, hscript, Invocation.unmarked]
    split <;> rfl
  run := by
    rintro w w' ⟨hfiles, hscript⟩ call environment environment'
    simp only [runner, hscript, Invocation.unmarked]
    split <;> exact ⟨hfiles, rfl⟩
  write := blind_runner.write

/-- A model whose conversion the C compiler refuses: under the memory checker the converter is run
inside it, and the compiler refuses all the same. -/
theorem Job.instrumentation_transparent_of_refused :
    let job := Job.bare .murphi2c
    let w := Rehearsal.start [("cc", [.output { exitCode := 1, stderr := "error" }])]
    let p := job.perform Rehearsal.runner (Config.bare.withValgrind false []) w
    let q := job.perform Rehearsal.runner.unwrapping
      (Config.bare.withValgrind true [("HAS_VALGRIND", .boolean true)]) (w.due true)
    p.exchanges.map (fun x => x.call.program) = ["murphi2c", "cc"] ∧
      q.exchanges.map (fun x => x.call.program) = ["valgrind", "cc"] ∧ q.result = p.result ∧
      p.result.toOption =
        some (.fail .toolInvocation "unexpected C compiler exit status 1:\nerror") := by
  intro job w p q
  have hcode : p.exchanges[0]?.map (fun x => x.answer.toOption.map Output.exitCode) =
      some (some 0) := by
    decide +kernel
  have hno : ¬ job.ViolatedFirst p.exchanges := by
    rintro ⟨-, call, o, ⟨x, hx, -, ho⟩, h42⟩
    rw [hx, Option.map_some, ho] at hcode
    simp [Except.toOption, h42] at hcode
  have hsame := (job.instrumentation_transparent Rehearsal.unaware_runner Config.bare []
    [("HAS_VALGRIND", .boolean true)] w).1 hno
  exact ⟨by decide +kernel, by decide +kernel, hsame.1, by decide +kernel⟩

end Conformance
