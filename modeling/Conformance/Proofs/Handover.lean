import Conformance.Proofs.Catalog.Identity
import Conformance.Proofs.Configuration
import Conformance.Proofs.Dictionary
import Conformance.Proofs.MemoryViolation
import Conformance.Proofs.Run
import Conformance.Proofs.Text.ByteOrder
import Conformance.Rehearsal

/-!
# What a runner is handed

In a run every process is given all facts of the configuration, and nothing else, in its
environment. What it is asked to do is what the stages of its job ask for, to the letter; only the
first process of a model stands inside the memory checker, if that is there.

## Main definitions

* `Procedure.requests`: the invocations that a procedure asks for, as it builds them
* `Job.handed`: what a runner is handed for an invocation of a job

## Main results

* `Config.discover_ascending`: the facts of a configuration that is discovered are in order
* `Config.mem_environment_iff`, `Config.environment_pairwise`: what is in the environment
* `Procedure.calls_eq`: a runner is handed what the procedure asks for, prepared
* `Job.calls_eq`: what a runner is handed in a job
* `runJobs_exchanges`: the exchanges of a run are those of its jobs, up to a fault
* `Catalog.handed_in_run`: what a runner is handed in a run
-/

namespace Conformance

variable {α σ : Type}

/-! ## The facts -/

theorem Config.facts_of_build {facts : Dictionary Literal} {toolchain : Toolchain} {cpus : Nat}
    {config : Config} (h : build facts toolchain cpus = .ok config) : config.facts = facts := by
  unfold build at h
  split at h
  · next config' hfacts =>
    obtain rfl := Except.ok.inj h
    obtain ⟨-, -, -, -, -, -, -, hsame, -⟩ := ofFacts_eq_ok_iff.mp hfacts
    exact hsame
  · contradiction

/-- Probes add their facts in order. -/
theorem runProbes_ascending {runner : Runner σ} {dir : Path} {entries : List DirEntry}
    {facts facts' : Dictionary Literal} {w : World σ} (h : facts.Ascending)
    (hresult : (runProbes runner dir facts entries w).result = .ok facts') :
    facts'.Ascending := by
  induction entries generalizing facts w with
  | nil =>
    obtain rfl := Except.ok.inj hresult
    exact h
  | cons entry entries ih =>
    obtain ⟨name, node⟩ := entry
    -- an entry that is a program adds a fact or ends the probes, and any other adds nothing
    rw [runProbes] at hresult
    split_ifs at hresult with hnode
    · rcases hrun : runner.run { program := Path.join dir name } [] w with ⟨answer, u⟩
      simp only [hrun] at hresult
      split at hresult
      · contradiction
      · exact ih (h.insert name _) hresult
    · exact ih h hresult

/-- **The facts of a configuration that is discovered are in order.** -/
theorem Config.discover_ascending {runner : Runner σ} {dir : Path}
    {entries : Option (List DirEntry)} {toolchain : Toolchain} {cpus : Nat} {w : World σ}
    {config : Config}
    (h : (discover runner dir entries toolchain cpus w).result = .ok config) :
    config.facts.Ascending := by
  unfold discover at h
  simp only at h
  split at h
  · contradiction
  · next facts hfacts =>
    rw [facts_of_build h]
    exact runProbes_ascending Dictionary.ascending_nil hfacts

namespace Config

variable {config : Config}

/-- The names in the environment ascend in the order of their bytes. -/
theorem environment_pairwise (h : config.facts.Ascending) :
    config.environment.Pairwise fun e e' => Text.encode e.1 < Text.encode e'.1 := by
  rw [environment, List.pairwise_map]
  exact h.imp Text.encode_lt_encode

/-- **The environment holds the facts**: a string as it is, any other literal as it is written. -/
theorem mem_environment_iff (h : config.facts.Ascending) {name value : String} :
    (name, value) ∈ config.environment ↔
      config.facts.get? name = some (.string value) ∨
        ∃ l, config.facts.get? name = some l ∧ l.kind ≠ .string ∧ value = l.render := by
  have hmem : (name, value) ∈ config.environment ↔
      ∃ l, config.facts.get? name = some l ∧ l.exported = value := by
    simp only [environment, List.mem_map, Prod.exists, Prod.mk.injEq]
    constructor
    · rintro ⟨name, l, hl, rfl, rfl⟩
      exact ⟨l, h.mem_iff.mp hl, rfl⟩
    · rintro ⟨l, hl, rfl⟩
      exact ⟨name, l, h.mem_iff.mpr hl, rfl, rfl⟩
  rw [hmem]
  constructor
  · rintro ⟨l, hl, rfl⟩
    cases l with
    | string s => exact .inl hl
    | boolean | integer | list | pattern => exact .inr ⟨_, hl, nofun, rfl⟩
  · rintro (hl | ⟨l, hl, hkind, rfl⟩)
    · exact ⟨_, hl, rfl⟩
    · cases l with
      | string s => exact absurd rfl hkind
      | boolean | integer | list | pattern => exact ⟨_, hl, rfl⟩

end Config

/-! ## The requests -/

namespace Procedure

/-- The invocations that a procedure asks for along some exchanges, as it builds them, before the
memory checker is put around any. -/
def requests (config : Config) : Procedure α → List Exchange → List Invocation
  | done _, _ => []
  | run _ _, [] => []
  | run call next, x :: xs =>
    call :: match x.answer with
      | .ok o => (next (config.interpret call o)).requests config xs
      | .error _ => []
  | write _ _ next, xs => next.requests config xs

@[simp] theorem requests_nil (config : Config) (procedure : Procedure α) :
    procedure.requests config [] = [] := by
  induction procedure with
  | done | run => rfl
  | write name text next ih => exact ih

variable (runner : Runner σ) (config : Config) (scratch : Place) (procedure : Procedure α)

/-- **A runner is handed what the procedure asks for**, prepared. -/
theorem calls_eq (w : World σ) :
    let xs := (procedure.perform runner config scratch w).exchanges
    xs.map Exchange.call = (procedure.requests config xs).map config.prepare := by
  -- an answer decides how the procedure goes on, in the requests just as in the performance
  induction procedure generalizing w with
  | done result => rfl
  | write name text next ih => exact ih _
  | run call next ih =>
    rcases hrun : runner.run (config.prepare call) config.environment w with ⟨answer, u⟩
    cases answer with
    | error failure =>
      rw [perform_run_error scratch next hrun]
      rfl
    | ok o =>
      rw [perform_run_ok scratch next hrun]
      exact congrArg (config.prepare call :: ·) (ih (config.interpret call o) u)

/-- Every process is given the environment of the configuration. -/
theorem environment_of_mem {w : World σ} {x : Exchange}
    (hx : x ∈ (procedure.perform runner config scratch w).exchanges) :
    x.environment = config.environment := by
  induction procedure generalizing w with
  | done result => exact absurd hx List.not_mem_nil
  | write name text next ih => exact ih hx
  | run call next ih =>
    rcases hrun : runner.run (config.prepare call) config.environment w with ⟨answer, u⟩
    cases answer with
    | error failure =>
      rw [perform_run_error scratch next hrun] at hx
      rw [List.mem_singleton.mp hx]
      rfl
    | ok o =>
      rw [perform_run_ok scratch next hrun] at hx
      rcases List.mem_cons.mp hx with rfl | hrest
      · rfl
      · exact ih _ hrest

end Procedure

/-- The requests of a chain are the calls of its stages. -/
theorem Stage.exists_of_request {config : Config} {stages : List Stage} {before : String}
    {xs : List Exchange} {n : Nat} {i : Invocation}
    (h : ((chain stages before).requests config xs)[n]? = some i) :
    ∃ s before', stages[n]? = some s ∧ i = s.call before' := by
  induction stages generalizing before xs n with
  | nil => simp [chain, Procedure.requests] at h
  | cons s rest ih =>
    have hstep : (chain (s :: rest) before).requests config xs =
        (Procedure.run (s.call before) fun o =>
          (s.check o).andThen (chain rest o.stdout)).requests config xs := by
      rw [chain]
      cases s.file? <;> rfl
    rw [hstep] at h
    cases xs with
    | nil => simp [Procedure.requests] at h
    | cons x xs =>
      rw [Procedure.requests] at h
      cases n with
      | zero => exact ⟨s, before, rfl, by simpa using h.symm⟩
      | succ n =>
        -- a later request comes from the stages behind, which only an answer leads to
        rw [List.getElem?_cons_succ] at h
        cases hanswer : x.answer with
        | error failure => simp [hanswer] at h
        | ok o =>
          rw [hanswer] at h
          simp only at h
          cases hcheck : s.check (config.interpret (s.call before) o) with
          | finished verdict => simp [hcheck, Procedure.requests] at h
          | proceed =>
            rw [hcheck] at h
            exact ih h

namespace Job

/-- **What a runner is handed for the `n`-th invocation of a job**: the first of a model stands
inside the memory checker, if that is there, and any other is handed over as it was built. -/
def handed (job : Job) (config : Config) (n : Nat) (i : Invocation) : Invocation :=
  if n = 0 ∧ job.tool ≠ .executable ∧ config.hasValgrind = true then
    { program := config.toolchain.valgrind
      args := ["--leak-check=full", "--show-leak-kinds=all", "--error-exitcode=42", i.program] ++
        i.args
      stdin := i.stdin
      instrument := false }
  else i

theorem prepare_request {job : Job} {config : Config} {scratch : Path} {xs : List Exchange}
    {n : Nat} {i : Invocation}
    (h : ((job.procedure config scratch).requests config xs)[n]? = some i) :
    config.prepare i = job.handed config n i := by
  rw [procedure_eq_chain] at h
  obtain ⟨s, before, hs, rfl⟩ := Stage.exists_of_request h
  -- the stages of a job to be instrumented are the first ones of models
  have hmark : (s.call before).instrument = true ↔ n = 0 ∧ job.tool ≠ .executable := by
    rw [instrument_eq hs, decide_eq_true_eq]
  simp only [Config.prepare, Config.wraps, Bool.and_eq_true, hmark, handed, and_assoc]
  rfl

/-- **What a runner is handed in a job.** A model that is to be skipped asks for nothing. -/
theorem calls_eq (runner : Runner σ) (config : Config) (job : Job) (w : World σ) :
    let xs := (job.perform runner config w).exchanges
    xs.map Exchange.call =
      ((job.procedure config w.scratchPath).requests config xs).mapIdx (job.handed config) := by
  intro xs
  have hprepared : xs.map Exchange.call =
      ((job.procedure config w.scratchPath).requests config xs).map config.prepare := by
    by_cases htool : job.tool = .executable
    · have hprocedure : job.procedure config w.scratchPath = job.executableProcedure := by
        rw [procedure, htool]
      simp only [xs, perform, if_pos htool, hprocedure]
      exact Procedure.calls_eq runner config [] job.executableProcedure w
    · simp only [xs, perform, if_neg htool]
      cases job.input.expectations.skipReason with
      | some reason => simp
      | none => exact Procedure.calls_eq ..
  -- what preparing does to a request depends on its position alone
  rw [hprepared]
  apply List.ext_getElem?
  intro n
  rw [List.getElem?_map, List.getElem?_mapIdx]
  cases hn : ((job.procedure config w.scratchPath).requests config xs)[n]? with
  | none => rfl
  | some i => exact congrArg some (prepare_request hn)

theorem environment_of_mem {runner : Runner σ} {config : Config} {job : Job} {w : World σ}
    {x : Exchange} (hx : x ∈ (job.perform runner config w).exchanges) :
    x.environment = config.environment := by
  unfold perform at hx
  split_ifs at hx with htool
  · exact Procedure.environment_of_mem _ _ _ _ hx
  · split at hx
    · exact absurd hx List.not_mem_nil
    · exact Procedure.environment_of_mem _ _ _ _ hx

theorem exists_of_mem_performEach {runner : Runner σ} {config : Config} {jobs : List Job}
    {w : World σ} {performed : Job × Performance Verdict σ}
    (h : performed ∈ performEach runner config jobs w) :
    ∃ u, performed.2 = performed.1.perform runner config u := by
  induction jobs generalizing w with
  | nil => exact absurd h List.not_mem_nil
  | cons job jobs ih =>
    rcases List.mem_cons.mp h with rfl | hrest
    · exact ⟨w, rfl⟩
    · exact ih hrest

end Job

/-! ## The run -/

/-- **The exchanges of a run are those of its jobs**, in their order, up to the job that comes to a
fault. -/
theorem runJobs_exchanges (runner : Runner σ) (config : Config) (jobs : List Job) (w : World σ) :
    ∃ ps, ps <+: Job.performEach runner config jobs w ∧
      (runJobs runner config jobs w).exchanges =
        ps.flatMap fun performed => performed.2.exchanges := by
  induction jobs generalizing w with
  | nil => exact ⟨[], List.nil_prefix, rfl⟩
  | cons job jobs ih =>
    rw [Job.performEach]
    cases hresult : (job.perform runner config w).result with
    | error fault =>
      -- the run ends with this job
      refine ⟨[(job, job.perform runner config w)], ⟨_, rfl⟩, ?_⟩
      simp [runJobs_cons_of_fault hresult]
    | ok verdict =>
      obtain ⟨ps, hfirst, hexchanges⟩ := ih (job.perform runner config w).world
      refine ⟨(job, job.perform runner config w) :: ps, ?_, ?_⟩
      · exact List.cons_prefix_cons.mpr ⟨rfl, hfirst⟩
      · simp [runJobs_cons_of_verdict hresult, hexchanges]

/-- **What a runner is handed in a run.** What it is asked is what the exchanges say, and they are
those of the jobs, in their order. Every process is given one variable for each fact that the
configuration is made of, recognised or not, in ascending order of the bytes of their names: a
string as it is, and any other literal as it is written. The first process of a model is handed over
inside the memory checker, if a fact says that it is there, and every other process as its job asks
for it. -/
theorem Catalog.handed_in_run (c : Catalog) (runner : Runner σ) {facts : Dictionary Literal}
    (hfacts : facts.Ascending) {toolchain : Toolchain} {cpus : Nat} {config : Config}
    (hconfig : Config.ofFacts facts toolchain cpus = .ok config) (f : Filter) (w : World σ) :
    let q := c.run runner config f w
    (∀ log, c.run runner.logging config f (w.logged log) = q.logged log) ∧
      (∀ x ∈ q.exchanges,
        (x.environment.Pairwise fun e e' => Text.encode e.1 < Text.encode e'.1) ∧
        ∀ name value, (name, value) ∈ x.environment ↔
          facts.get? name = some (.string value) ∨
            ∃ l, facts.get? name = some l ∧ l.kind ≠ .string ∧ value = l.render) ∧
      (config.hasValgrind = true ↔ facts.get? "HAS_VALGRIND" = some (.boolean true)) ∧
      ∃ ps, ps <+: Job.performEach runner config (c.jobs f) w ∧
        q.exchanges = ps.flatMap (fun performed => performed.2.exchanges) ∧
        ∀ performed ∈ ps, ∃ scratch,
          performed.2.exchanges.map Exchange.call =
            ((performed.1.procedure config scratch).requests config
              performed.2.exchanges).mapIdx (performed.1.handed config) := by
  intro q
  obtain ⟨-, -, -, hflag, -, -, -, rfl, -⟩ := Config.ofFacts_eq_ok_iff.mp hconfig
  obtain ⟨ps, hfirst, hexchanges⟩ := runJobs_exchanges runner config (c.jobs f) w
  have hperformed : ∀ performed ∈ ps, ∃ u, performed.2 = performed.1.perform runner config u :=
    fun performed hp => Job.exists_of_mem_performEach (hfirst.subset hp)
  refine ⟨fun log => ?_, fun x hx => ?_, Config.eq_true_iff_of_flagFact hflag, ps, hfirst,
    hexchanges, fun performed hp => ?_⟩
  · simp only [q, run, runJobs_logging]
    rfl
  · have henvironment : x.environment = config.environment := by
      obtain ⟨performed, hp, hmem⟩ := List.mem_flatMap.mp (hexchanges ▸ hx)
      obtain ⟨u, hu⟩ := hperformed performed hp
      exact Job.environment_of_mem (hu ▸ hmem)
    rw [henvironment]
    exact ⟨config.environment_pairwise hfacts, fun _ _ => config.mem_environment_iff hfacts⟩
  · obtain ⟨u, hu⟩ := hperformed performed hp
    refine ⟨u.scratchPath, ?_⟩
    rw [hu]
    exact Job.calls_eq runner config performed.1 u

/-- A test program and a model under the memory checker: only the converter stands inside it, and
all three processes are given the three facts. -/
theorem Catalog.handed_in_run_of_program_and_model :
    let facts : Dictionary Literal :=
      [("CC", .string "cc"), ("HAS_VALGRIND", .boolean true), ("SEED", .integer 3)]
    let config := { Config.bare with facts := facts, hasValgrind := true }
    let c := afterRequests [⟨.murphi2c, "test_model_m", ⟨"model.m", "", {}⟩⟩,
      ⟨.executable, "test_check", .executable "check"⟩]
    let q := c.run Rehearsal.runner config .all (Rehearsal.start [])
    facts.Ascending ∧ Config.ofFacts facts {} 1 = .ok config ∧
      q.exchanges.map (fun x => x.call.program) = ["check", "valgrind", "cc"] ∧
      ∀ x ∈ q.exchanges, ("CC", "cc") ∈ x.environment ∧ ("SEED", "3") ∈ x.environment := by
  intro facts config c q
  have hfacts : facts.Ascending := by
    decide
  have hconfig : Config.ofFacts facts {} 1 = .ok config := rfl
  obtain ⟨-, henvironment, -⟩ :=
    c.handed_in_run Rehearsal.runner hfacts hconfig .all (Rehearsal.start [])
  refine ⟨hfacts, hconfig, by decide +kernel, fun x hx => ?_⟩
  obtain ⟨-, hmem⟩ := henvironment x hx
  refine ⟨(hmem "CC" "cc").mpr (.inl rfl), (hmem "SEED" "3").mpr (.inr ⟨.integer 3, rfl, nofun, ?_⟩)⟩
  decide +kernel

end Conformance
