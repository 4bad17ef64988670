import Conformance.Proofs.Catalog.Discovery
import Conformance.Proofs.Configuration
import Conformance.Proofs.Run
import Conformance.Proofs.Summary

/-!
# What the command line does first

A run looks at its filter, then at its catalog, then at its configuration, and then performs its
jobs. What is at fault with one of them is reported before the next is looked at: while the filter
or the catalog is at fault no process is started, and while the configuration is, only probes are.
Nothing is on standard output unless the whole report is, and the exit status says whether a job
failed.

## Main definitions

* `Catalog.Unmade`: what is wrong with a directory of tests
* `CommandLine.Unprepared`: what is wrong with the filter or the catalog
* `CommandLine.Hindered`: what keeps a run from its report, and what it asked its runner before
* `CommandLine.Begins`: a run comes to its jobs
* `CommandLine.Effect.Shows`: what is seen of an effect, with tracing or without
* `CommandLine.Runs`: the effect of a run, what it asks its runner and the world that it leaves

## Main results

* `Catalog.discover_eq_error_iff`: the fault of a directory of tests
* `Config.discover_calls`: what is run for a configuration are the probes, in their order
* `CommandLine.Hindered.runs`: a run that is kept from its report
* `CommandLine.Begins.runs`: a run that comes to its report
* `CommandLine.faults_come_first`: which of the two a run is
-/

namespace Conformance

variable {σ : Type}

/-! ## The directory of tests -/

namespace Catalog

/-- **What is wrong with a directory of tests**, as the fault that it is reported by: there is none,
or something is wrong with an entry and nothing with those before it. -/
inductive Unmade (root : Path) : Option (List DirEntry) → Fault → Prop
  | missing : Unmade root none (.missingDirectory root)
  | entry {entries earlier later : List DirEntry} {e : DirEntry} {fault : Fault}
    (split : sortedEntries entries = earlier ++ e :: later)
    (acceptable : Acceptable root earlier) (offends : Offends root earlier e fault) :
    Unmade root (some entries) fault

theorem discover_eq_error_iff {root : Path} {entries : Option (List DirEntry)} {fault : Fault} :
    discover root entries = .error fault ↔ Unmade root entries fault := by
  cases entries with
  | none =>
    constructor
    · intro h
      obtain rfl := Except.error.inj h
      exact .missing
    · rintro ⟨⟩
      rfl
  | some entries =>
    change addEntries root empty (sortedEntries entries) = .error fault ↔ _
    rcases (collects_empty root).addEntries (sortedEntries entries) with
      ⟨c, hok, hc⟩ | ⟨earlier, e, later, fault', hsplit, herror, hacc, hoff⟩
    · rw [hok]
      refine iff_of_false nofun ?_
      rintro (_ | ⟨hsplit, -, hoff⟩)
      exact hoff.not_acceptable (hsplit ▸ hc.acceptable)
    · rw [herror]
      constructor
      · intro h
        obtain rfl := Except.error.inj h
        exact .entry hsplit hacc hoff
      · rintro (_ | ⟨hsplit', hacc', hoff'⟩)
        exact congrArg _ (hoff.first_unique (hsplit.symm.trans hsplit') hacc hacc' hoff')

end Catalog

/-! ## Probes -/

/-- What is run for a probe. -/
def DirEntry.probeCall (dir : Path) (e : DirEntry) : Invocation :=
  { program := Path.join dir e.1 }

section Probes

variable {runner : Runner σ} {dir : Path} {e : DirEntry} {w u : World σ}
  {answer : Except SpawnFailure Output}

theorem runProbes_cons_of_not_isProgram (runner : Runner σ) (dir : Path)
    (facts : Dictionary Literal) (entries : List DirEntry) (w : World σ) (h : ¬ e.isProgram) :
    runProbes runner dir facts (e :: entries) w = runProbes runner dir facts entries w :=
  if_neg h

theorem runProbes_cons_of_fault {fault : Fault} (facts : Dictionary Literal)
    (entries : List DirEntry) (h : e.isProgram)
    (hrun : runner.run (e.probeCall dir) [] w = (answer, u))
    (hfault : probeFact (Path.join dir e.1) answer = .error fault) :
    runProbes runner dir facts (e :: entries) w =
      ⟨.error fault, [⟨e.probeCall dir, [], answer⟩], u⟩ := by
  rw [DirEntry.probeCall] at hrun
  rw [DirEntry.isProgram] at h
  rw [runProbes, if_pos h]
  simp only [hrun, hfault]
  rfl

theorem runProbes_cons_of_fact {v : Literal} (facts : Dictionary Literal)
    (entries : List DirEntry) (h : e.isProgram)
    (hrun : runner.run (e.probeCall dir) [] w = (answer, u))
    (hfact : probeFact (Path.join dir e.1) answer = .ok v) :
    let rest := runProbes runner dir (facts.insert e.1 v) entries u
    runProbes runner dir facts (e :: entries) w =
      { rest with exchanges := ⟨e.probeCall dir, [], answer⟩ :: rest.exchanges } := by
  rw [DirEntry.probeCall] at hrun
  rw [DirEntry.isProgram] at h
  rw [runProbes, if_pos h]
  simp only [hrun, hfact]
  rfl

end Probes

/-- **What is run for some entries are the probes among them**, in their order and up to the one at
fault. -/
theorem runProbes_calls (runner : Runner σ) (dir : Path) (facts : Dictionary Literal)
    (entries : List DirEntry) (w : World σ) :
    (runProbes runner dir facts entries w).exchanges.map Exchange.call <+:
      (entries.filter DirEntry.isProgram).map (DirEntry.probeCall dir) := by
  induction entries generalizing facts w with
  | nil => exact List.nil_prefix
  | cons e entries ih =>
    by_cases h : e.isProgram
    · rw [List.filter_cons_of_pos h, List.map_cons]
      rcases hrun : runner.run (e.probeCall dir) [] w with ⟨answer, u⟩
      cases hfact : probeFact (Path.join dir e.1) answer with
      | error fault =>
        rw [runProbes_cons_of_fault facts entries h hrun hfact]
        exact ⟨_, rfl⟩
      | ok v =>
        rw [runProbes_cons_of_fact facts entries h hrun hfact]
        exact List.cons_prefix_cons.mpr ⟨rfl, ih _ u⟩
    · rw [List.filter_cons_of_neg h, runProbes_cons_of_not_isProgram _ _ _ _ _ h]
      exact ih facts w

/-- **The log of the probes is the list of their exchanges.** -/
theorem runProbes_logging (runner : Runner σ) (dir : Path) (facts : Dictionary Literal)
    (entries : List DirEntry) (w : World σ) (log : List Exchange) :
    runProbes runner.logging dir facts entries (w.logged log) =
      (runProbes runner dir facts entries w).logged log := by
  induction entries generalizing facts w log with
  | nil => simp [runProbes, Performance.logged]
  | cons e entries ih =>
    by_cases h : e.isProgram
    · rcases hrun : runner.run (e.probeCall dir) [] w with ⟨answer, u⟩
      have hlogged := runner.logging_run _ _ log hrun
      cases hfact : probeFact (Path.join dir e.1) answer with
      | error fault =>
        rw [runProbes_cons_of_fault facts entries h hrun hfact,
          runProbes_cons_of_fault facts entries h hlogged hfact]
        rfl
      | ok v =>
        rw [runProbes_cons_of_fact facts entries h hrun hfact,
          runProbes_cons_of_fact facts entries h hlogged hfact, ih]
        simp only [Performance.logged, List.append_assoc, List.singleton_append]
    · rw [runProbes_cons_of_not_isProgram _ _ _ _ _ h,
        runProbes_cons_of_not_isProgram _ _ _ _ _ h]
      exact ih facts w log

/-- The fault of some probes is that of the answer of the last that was run. -/
theorem runProbes_fault {runner : Runner σ} {dir : Path} {facts : Dictionary Literal}
    {entries : List DirEntry} {w : World σ} {fault : Fault}
    (h : (runProbes runner dir facts entries w).result = .error fault) :
    ∃ x, (runProbes runner dir facts entries w).exchanges.getLast? = some x ∧
      probeFact x.call.program x.answer = .error fault := by
  induction entries generalizing facts w with
  | nil => contradiction
  | cons e entries ih =>
    by_cases hprobe : e.isProgram
    · rcases hrun : runner.run (e.probeCall dir) [] w with ⟨answer, u⟩
      cases hfact : probeFact (Path.join dir e.1) answer with
      | error fault' =>
        rw [runProbes_cons_of_fault facts entries hprobe hrun hfact] at h ⊢
        obtain rfl := Except.error.inj h
        exact ⟨_, rfl, hfact⟩
      | ok v =>
        rw [runProbes_cons_of_fact facts entries hprobe hrun hfact] at h ⊢
        obtain ⟨x, hlast, hx⟩ := ih h
        exact ⟨x, by rw [List.getLast?_cons, hlast]; rfl, hx⟩
    · rw [runProbes_cons_of_not_isProgram _ _ _ _ _ hprobe] at h ⊢
      exact ih h

/-! ## The configuration -/

namespace Config

variable {runner : Runner σ} {dir : Path} {entries : Option (List DirEntry)}
  {toolchain : Toolchain} {cpus : Nat} {w : World σ}

/-- What the probes in a directory come to. -/
def probed (runner : Runner σ) (dir : Path) (entries : Option (List DirEntry)) (w : World σ) :
    Performance (Dictionary Literal) σ :=
  runProbes runner dir [] (sortedEntries (entries.getD [])) w

/-- **What is wrong with a configuration**, as the fault that it is reported by: a probe is at
fault, or the probes state a fact of the wrong kind. -/
inductive Unstated (probed : Performance (Dictionary Literal) σ) (toolchain : Toolchain)
    (cpus : Nat) : Fault → Prop
  | probe {fault : Fault} (wrong : probed.result = .error fault) :
    Unstated probed toolchain cpus fault
  | fact {facts : Dictionary Literal} {m : Mismatch} (stated : probed.result = .ok facts)
    (wrong : ofFacts facts toolchain cpus = .error m) : Unstated probed toolchain cpus m.fault

theorem discover_eq (runner : Runner σ) (dir : Path) (entries : Option (List DirEntry))
    (toolchain : Toolchain) (cpus : Nat) (w : World σ) :
    discover runner dir entries toolchain cpus w =
      ⟨(probed runner dir entries w).result >>= fun facts => build facts toolchain cpus,
        (probed runner dir entries w).exchanges, (probed runner dir entries w).world⟩ := by
  unfold discover probed
  dsimp only
  generalize (runProbes runner dir [] (sortedEntries (entries.getD [])) w).result = result
  cases result <;> rfl

theorem build_eq_ok_iff {facts : Dictionary Literal} {config : Config} :
    build facts toolchain cpus = .ok config ↔ ofFacts facts toolchain cpus = .ok config := by
  unfold build
  cases ofFacts facts toolchain cpus <;> simp

theorem build_eq_error_iff {facts : Dictionary Literal} {fault : Fault} :
    build facts toolchain cpus = .error fault ↔
      ∃ m, ofFacts facts toolchain cpus = .error m ∧ m.fault = fault := by
  unfold build
  cases ofFacts facts toolchain cpus <;> simp

theorem discover_eq_ok_iff {config : Config} :
    (discover runner dir entries toolchain cpus w).result = .ok config ↔
      ∃ facts, (probed runner dir entries w).result = .ok facts ∧
        ofFacts facts toolchain cpus = .ok config := by
  simp only [discover_eq, bind_eq_ok_iff, build_eq_ok_iff]

theorem discover_eq_error_iff {fault : Fault} :
    (discover runner dir entries toolchain cpus w).result = .error fault ↔
      Unstated (probed runner dir entries w) toolchain cpus fault := by
  simp only [discover_eq, bind_eq_error_iff, build_eq_error_iff]
  constructor
  · rintro (hwrong | ⟨facts, hstated, m, hwrong, rfl⟩)
    · exact .probe hwrong
    · exact .fact hstated hwrong
  · rintro (hwrong | ⟨hstated, hwrong⟩)
    · exact .inl hwrong
    · exact .inr ⟨_, hstated, _, hwrong, rfl⟩

theorem discover_logging (runner : Runner σ) (dir : Path) (entries : Option (List DirEntry))
    (toolchain : Toolchain) (cpus : Nat) (w : World σ) (log : List Exchange) :
    discover runner.logging dir entries toolchain cpus (w.logged log) =
      (discover runner dir entries toolchain cpus w).logged log := by
  rw [discover_eq, discover_eq, probed, runProbes_logging]
  rfl

end Config

/-! ## Runs -/

namespace CommandLine

/-- What is found at a path before anything is run. -/
def Host.found (host : Host σ) (w : World σ) (path : Path) : Option (List DirEntry) :=
  w.files.listing? host.current path

/-- The host that keeps a log of what its runner is asked. -/
def Host.logging (host : Host σ) : Host (σ × List Exchange) :=
  { host with runner := host.runner.logging }

/-- **What is wrong with the filter or the catalog**, as the fault that it is reported by and the
words before it. The catalog is looked at only if nothing is wrong with the filter. -/
inductive Unprepared (host : Host σ) (o : CommonOptions) (w : World σ) : String → Fault → Prop
  | filter {fault : Fault} (wrong : Filter.read o.filter = .error fault) :
    Unprepared host o w "" fault
  | catalog {f : Filter} {fault : Fault} (filter : Filter.read o.filter = .ok f)
    (wrong : Catalog.Unmade o.root (host.found w o.root) fault) :
    Unprepared host o w ("failed to load tests from " ++ o.root ++ ": ") fault

section Prepare

variable {host : Host σ} {o : CommonOptions} {w : World σ}

theorem prepare_eq_ok_iff {f : Filter} {c : Catalog} :
    prepare host o w.files = .ok (f, c) ↔
      Filter.read o.filter = .ok f ∧ Catalog.discover o.root (host.found w o.root) = .ok c := by
  rw [prepare, Host.found]
  cases Filter.read o.filter with
  | error fault => simp
  | ok f' => cases Catalog.discover o.root (w.files.listing? host.current o.root) <;> simp

theorem Unprepared.prepare_eq {context : String} {fault : Fault}
    (h : Unprepared host o w context fault) :
    prepare host o w.files = .error (failure context fault) := by
  cases h with
  | filter wrong => simp only [prepare, wrong]
  | catalog filter wrong =>
    rw [← Catalog.discover_eq_error_iff, Host.found] at wrong
    simp only [prepare, filter, wrong]

theorem exists_unprepared {effect : Effect} (h : prepare host o w.files = .error effect) :
    ∃ context fault, Unprepared host o w context fault := by
  rw [prepare] at h
  cases hread : Filter.read o.filter with
  | error fault => exact ⟨_, fault, .filter hread⟩
  | ok f =>
    cases hdiscover : Catalog.discover o.root (host.found w o.root) with
    | error fault => exact ⟨_, fault, .catalog hread (Catalog.discover_eq_error_iff.mp hdiscover)⟩
    | ok c =>
      rw [Host.found] at hdiscover
      simp [hread, hdiscover] at h

end Prepare

/-- **What is seen of an effect**: its exit status, what is on standard output and, without tracing,
what is on standard error. With tracing there are other lines between, of which nothing is said. -/
structure Effect.Shows (e : Effect) (trace : Bool) (seen : Effect) : Prop where
  status : e.status = seen.status
  stdout : e.stdout = seen.stdout
  stderr : trace = false → e.stderr = seen.stderr

theorem Effect.Shows.rfl {e : Effect} {trace : Bool} : e.Shows trace e :=
  ⟨.refl _, .refl _, fun _ => .refl _⟩

section Run

variable {host : Host σ} {o : RunOptions} {w : World σ}

/-- What the probes of a run come to. -/
def probes (host : Host σ) (o : RunOptions) (w : World σ) : Performance (Dictionary Literal) σ :=
  Config.probed host.runner (probeDir o) (host.found w (probeDir o)) w

/-- **A run comes to its jobs**: nothing is wrong with its filter, its catalog and its
configuration, and then its jobs are performed one after the other. -/
inductive Begins (host : Host σ) (o : RunOptions) (w : World σ) :
    List (Job × Performance Verdict σ) → Prop
  | intro {f : Filter} {c : Catalog} {facts : Dictionary Literal} {config : Config}
    (filter : Filter.read o.filter = .ok f)
    (catalog : Catalog.discover o.root (host.found w o.root) = .ok c)
    (stated : (probes host o w).result = .ok facts)
    (config_eq : Config.ofFacts facts (toolchain o) host.cpus = .ok config) :
    Begins host o w (Job.performEach host.runner config (c.jobs f) (probes host o w).world)

/-- **What keeps a run from its report**: the fault with the words before it, what the runner was
asked until then, and the world that is left. -/
inductive Hindered (host : Host σ) (o : RunOptions) (w : World σ) :
    String → Fault → List Exchange → World σ → Prop
  | unprepared {context : String} {fault : Fault}
    (wrong : Unprepared host o.toCommonOptions w context fault) :
    Hindered host o w context fault [] w
  | unstated {f : Filter} {c : Catalog} {fault : Fault}
    (filter : Filter.read o.filter = .ok f)
    (catalog : Catalog.discover o.root (host.found w o.root) = .ok c)
    (wrong : Config.Unstated (probes host o w) (toolchain o) host.cpus fault) :
    Hindered host o w ("failed to probe configuration in " ++ probeDir o ++ ": ") fault
      (probes host o w).exchanges (probes host o w).world
  | job {before after : List (Job × Performance Verdict σ)} {job : Job}
    {p : Performance Verdict σ} {fault : Fault}
    (begins : Begins host o w (before ++ (job, p) :: after))
    (verdicts : ∀ performed ∈ before, ∃ verdict, performed.2.result = .ok verdict)
    (wrong : p.result = .error fault) :
    Hindered host o w "" fault
      ((probes host o w).exchanges ++
        (before.flatMap (fun performed => performed.2.exchanges) ++ p.exchanges)) p.world

/-- **What a run comes to**: what is seen of its effect, what it asks its runner, and the world that
it leaves. -/
structure Runs (host : Host σ) (o : RunOptions) (w : World σ) (effect : Effect)
    (asked : List Exchange) (left : World σ) : Prop where
  shows : (run host o w).1.Shows o.trace effect
  left_eq : (run host o w).2 = left
  log : ∀ log, run host.logging o (w.logged log) = ((run host o w).1, left.logged (log ++ asked))

theorem Runs.of_eq {effect : Effect} {asked : List Exchange} {left : World σ}
    (hrun : run host o w = (effect, left))
    (hlog : ∀ log, run host.logging o (w.logged log) = (effect, left.logged (log ++ asked))) :
    Runs host o w effect asked left where
  shows := by
    rw [hrun]
    exact .rfl
  left_eq := by rw [hrun]
  log log := by rw [hlog, hrun]

theorem prepare_logging (host : Host σ) (o : CommonOptions) (w : World σ) (log : List Exchange) :
    prepare host.logging o (w.logged log).files = prepare host o w.files := rfl

theorem runs_of_unprepared {effect : Effect}
    (h : prepare host o.toCommonOptions w.files = .error effect) : Runs host o w effect [] w := by
  refine .of_eq ?_ fun log => ?_
  · simp only [run, h]
  · simp only [run, prepare_logging, h, List.append_nil]

/-- What the configuration of a run comes to. -/
def configure (host : Host σ) (o : RunOptions) (w : World σ) : Performance Config σ :=
  Config.discover host.runner (probeDir o) (host.found w (probeDir o)) (toolchain o) host.cpus w

theorem configure_logging (host : Host σ) (o : RunOptions) (w : World σ) (log : List Exchange) :
    configure host.logging o (w.logged log) = (configure host o w).logged log :=
  Config.discover_logging ..

theorem configure_exchanges (host : Host σ) (o : RunOptions) (w : World σ) :
    (configure host o w).exchanges = (probes host o w).exchanges := by
  rw [configure, Config.discover_eq, probes]

theorem configure_world (host : Host σ) (o : RunOptions) (w : World σ) :
    (configure host o w).world = (probes host o w).world := by
  rw [configure, Config.discover_eq, probes]

/-- The effect of a run by what its jobs come to. -/
def jobsEffect (json : Bool) : Except Fault (List JobResult) → Effect
  | .error fault => failure "" fault
  | .ok results => reportEffect json (.ofResults results)

section Prepared

variable {f : Filter} {c : Catalog}

theorem run_of_misconfigured {fault : Fault}
    (hprepare : prepare host o.toCommonOptions w.files = .ok (f, c))
    (hwrong : (configure host o w).result = .error fault) :
    run host o w = (failure ("failed to probe configuration in " ++ probeDir o ++ ": ") fault,
      (configure host o w).world) := by
  rw [configure, Host.found] at hwrong ⊢
  simp only [run, hprepare, hwrong]

theorem run_of_configured {config : Config}
    (hprepare : prepare host o.toCommonOptions w.files = .ok (f, c))
    (hconfig : (configure host o w).result = .ok config) :
    let q := runJobs host.runner config (c.jobs f) (configure host o w).world
    run host o w = (jobsEffect o.json q.result, q.world) := by
  rw [configure, Host.found] at hconfig ⊢
  simp only [run, hprepare, hconfig, Catalog.run]
  generalize runJobs host.runner config (c.jobs f) _ = q
  rcases q with ⟨result, exchanges, world⟩
  cases result <;> rfl

theorem runs_of_misconfigured {fault : Fault}
    (hprepare : prepare host o.toCommonOptions w.files = .ok (f, c))
    (hwrong : (configure host o w).result = .error fault) :
    Runs host o w (failure ("failed to probe configuration in " ++ probeDir o ++ ": ") fault)
      (probes host o w).exchanges (probes host o w).world := by
  refine .of_eq ?_ fun log => ?_
  · rw [run_of_misconfigured hprepare hwrong, configure_world]
  · have hlogged := configure_logging host o w log
    have hsame := congrArg Performance.result hlogged
    rw [run_of_misconfigured ((prepare_logging ..).trans hprepare) (hsame.trans hwrong), hlogged,
      Performance.logged, configure_exchanges, configure_world]

theorem runs_of_configured {config : Config}
    (hprepare : prepare host o.toCommonOptions w.files = .ok (f, c))
    (hconfig : (configure host o w).result = .ok config) :
    let q := runJobs host.runner config (c.jobs f) (probes host o w).world
    Runs host o w (jobsEffect o.json q.result) ((probes host o w).exchanges ++ q.exchanges)
      q.world := by
  refine .of_eq ?_ fun log => ?_
  · rw [run_of_configured hprepare hconfig, configure_world]
  · have hlogged := configure_logging host o w log
    have hsame := congrArg Performance.result hlogged
    -- the jobs find the exchanges of the probes in the log
    have hjobs := runJobs_logging host.runner config (c.jobs f) (probes host o w).world
      (log ++ (probes host o w).exchanges)
    rw [run_of_configured ((prepare_logging ..).trans hprepare) (hsame.trans hconfig), hlogged]
    simp only [Performance.logged, configure_exchanges, configure_world] at hjobs ⊢
    rw [Host.logging, hjobs, List.append_assoc]

end Prepared

/-! ### The two ways in which a run goes -/

theorem Hindered.runs {context : String} {fault : Fault} {asked : List Exchange} {left : World σ}
    (h : Hindered host o w context fault asked left) :
    Runs host o w (failure context fault) asked left := by
  cases h with
  | unprepared wrong => exact runs_of_unprepared wrong.prepare_eq
  | unstated filter catalog wrong =>
    exact runs_of_misconfigured (prepare_eq_ok_iff.mpr ⟨filter, catalog⟩)
      (Config.discover_eq_error_iff.mpr wrong)
  | @job before after job p fault begins verdicts wrong =>
    generalize hps : before ++ (job, p) :: after = ps at begins
    obtain ⟨filter, catalog, stated, config_eq⟩ := begins
    obtain ⟨hresult, hexchanges, hworld⟩ := runJobs_of_fault hps.symm verdicts wrong
    have hruns := runs_of_configured (prepare_eq_ok_iff.mpr ⟨filter, catalog⟩)
      (Config.discover_eq_ok_iff.mpr ⟨_, stated, config_eq⟩)
    simpa only [hresult, hexchanges, hworld, jobsEffect] using hruns

theorem Begins.runs {ps : List (Job × Performance Verdict σ)} (h : Begins host o w ps)
    (verdicts : ∀ performed ∈ ps, ∃ verdict, performed.2.result = .ok verdict) :
    ∃ results, List.Forall₂ JobResult.Records ps results ∧
      Runs host o w (reportEffect o.json (.ofResults results))
        ((probes host o w).exchanges ++ ps.flatMap fun performed => performed.2.exchanges)
        (lastWorld (probes host o w).world ps) := by
  obtain ⟨filter, catalog, stated, config_eq⟩ := h
  obtain ⟨⟨results, hresult, hrecords⟩, hexchanges, hworld⟩ := runJobs_of_verdicts verdicts
  have hruns := runs_of_configured (prepare_eq_ok_iff.mpr ⟨filter, catalog⟩)
    (Config.discover_eq_ok_iff.mpr ⟨_, stated, config_eq⟩)
  refine ⟨results, hrecords, ?_⟩
  simpa only [hresult, hexchanges, hworld, jobsEffect] using hruns

/-- **A run that nothing keeps from its report** comes to its jobs, and they to verdicts. -/
theorem begins_of_not_hindered
    (h : ¬ ∃ context fault asked left, Hindered host o w context fault asked left) :
    ∃ ps, Begins host o w ps ∧
      ∀ performed ∈ ps, ∃ verdict, performed.2.result = .ok verdict := by
  cases hprepare : prepare host o.toCommonOptions w.files with
  | error effect =>
    obtain ⟨context, fault, hwrong⟩ := exists_unprepared hprepare
    exact absurd ⟨_, _, _, _, .unprepared hwrong⟩ h
  | ok prepared =>
    obtain ⟨filter, catalog⟩ := prepare_eq_ok_iff.mp hprepare
    cases hconfig : (configure host o w).result with
    | error fault =>
      have hwrong := Config.discover_eq_error_iff.mp hconfig
      exact absurd ⟨_, _, _, _, .unstated filter catalog hwrong⟩ h
    | ok config =>
      obtain ⟨facts, stated, config_eq⟩ := Config.discover_eq_ok_iff.mp hconfig
      have hbegins : Begins host o w _ := .intro filter catalog stated config_eq
      refine ⟨_, hbegins, (verdicts_or_fault _).resolve_right ?_⟩
      rintro ⟨before, job, p, after, fault, hps, hbefore, hfault⟩
      exact h ⟨_, _, _, _, .job (hps ▸ hbegins) hbefore hfault⟩

/-- The report of results that record jobs has failures exactly if a job failed. -/
theorem hasFailures_iff_of_records {ps : List (Job × Performance Verdict σ)}
    {results : List JobResult} (h : List.Forall₂ JobResult.Records ps results) :
    (Report.ofResults results).summary.hasFailures = true ↔
      ∃ performed ∈ ps, ∃ kind diagnostic,
        performed.2.result = .ok (.fail kind diagnostic) := by
  rw [Report.ofResults, Summary.hasFailures_iff]
  induction h with
  | nil => simp
  | @cons performed r ps results hrecords _ ih =>
    have hhead : r.verdict.isFail = true ↔
        ∃ kind diagnostic, performed.2.result = .ok (.fail kind diagnostic) := by
      rw [hrecords.verdict]
      cases r.verdict <;> simp [Verdict.isFail]
    rw [List.exists_mem_cons_iff, List.exists_mem_cons_iff, ih, hhead]

end Run

/-! ## The list of keys -/

section List

variable {host : Host σ} {o : CommonOptions} {w : World σ}

theorem list_world (host : Host σ) (o : CommonOptions) (w : World σ) : (list host o w).2 = w := by
  unfold list
  cases prepare host o w.files <;> rfl

theorem Unprepared.list_shows {context : String} {fault : Fault}
    (h : Unprepared host o w context fault) :
    (list host o w).1.Shows o.trace (failure context fault) := by
  simp only [list, h.prepare_eq]
  exact .rfl

theorem exists_list_shows (h : ¬ ∃ context fault, Unprepared host o w context fault) :
    ∃ f c, Filter.read o.filter = .ok f ∧ Catalog.discover o.root (host.found w o.root) = .ok c ∧
      (list host o w).1.Shows o.trace
        { status := 0
          stdout := String.join ((c.jobs f).map fun job => job.key ++ "\n") } := by
  cases hprepare : prepare host o w.files with
  | error effect => exact absurd (exists_unprepared hprepare) h
  | ok prepared =>
    obtain ⟨filter, catalog⟩ := prepare_eq_ok_iff.mp hprepare
    refine ⟨_, _, filter, catalog, ?_⟩
    simp only [list, hprepare]
    exact .rfl

/-- The keys are listed without a runner. -/
theorem list_logging (host : Host σ) (o : CommonOptions) (w : World σ) (log : List Exchange) :
    list host.logging o (w.logged log) = ((list host o w).1, (list host o w).2.logged log) := by
  simp only [list, prepare_logging]
  cases prepare host o w.files <;> rfl

end List

/-- **Faults come first, and the exit status tells the truth.** A wrong filter is reported whatever
the files are. A fault of the filter or the catalog is reported before anything is run; a fault of
the configuration when nothing but probes was run, of which the last answered amiss if a probe is at
fault; and a fault of a job when no later job has begun. The exit status is then one, and nothing is
on standard output. A run that nothing of this keeps from its report prints the whole of it, with a
result for every chosen job, and its exit status is one if a job failed and zero if none did.
The keys are listed without anything being run, and only if nothing is wrong with the filter and
the catalog. What is said of standard error holds without tracing, which writes there as well. -/
theorem faults_come_first (host : Host σ) (o : RunOptions) (w : World σ) :
    (∀ fault, Filter.read o.filter = .error fault → ∀ u : World σ,
      Runs host o u { status := 1, stderr := "error: " ++ fault.chain ++ "\n" } [] u) ∧
    (∀ context fault asked left, Hindered host o w context fault asked left →
      Runs host o w
        { status := 1, stdout := "", stderr := "error: " ++ context ++ fault.chain ++ "\n" }
        asked left) ∧
    ((probes host o w).exchanges.map Exchange.call <+:
        ((sortedEntries ((host.found w (probeDir o)).getD [])).filter DirEntry.isProgram).map
          (DirEntry.probeCall (probeDir o)) ∧
      ∀ fault, (probes host o w).result = .error fault →
        ∃ x, (probes host o w).exchanges.getLast? = some x ∧
          probeFact x.call.program x.answer = .error fault) ∧
    ((¬ ∃ context fault asked left, Hindered host o w context fault asked left) →
      ∃ ps results status, Begins host o w ps ∧ List.Forall₂ JobResult.Records ps results ∧
        Runs host o w
          { status
            stdout :=
              if o.json then (Report.ofResults results).json else (Report.ofResults results).human
            stderr := "" }
          ((probes host o w).exchanges ++ ps.flatMap fun performed => performed.2.exchanges)
          (lastWorld (probes host o w).world ps) ∧
        (status = 0 ∨ status = 1) ∧
        (status = 1 ↔ ∃ performed ∈ ps, ∃ kind diagnostic,
          performed.2.result = .ok (.fail kind diagnostic))) ∧
    ∀ l : CommonOptions,
      (∀ log, list host.logging l (w.logged log) =
        ((list host l w).1, (list host l w).2.logged log)) ∧
      (list host l w).2 = w ∧
      (∀ context fault, Unprepared host l w context fault →
        (list host l w).1.Shows l.trace
          { status := 1, stdout := "", stderr := "error: " ++ context ++ fault.chain ++ "\n" }) ∧
      ((¬ ∃ context fault, Unprepared host l w context fault) →
        ∃ f c, Filter.read l.filter = .ok f ∧
          Catalog.discover l.root (host.found w l.root) = .ok c ∧
          (list host l w).1.Shows l.trace
            { status := 0
              stdout := String.join ((c.jobs f).map fun job => job.key ++ "\n")
              stderr := "" }) := by
  refine ⟨fun fault hwrong u => ?_, fun context fault asked left h => h.runs,
    ⟨runProbes_calls .., fun fault => runProbes_fault⟩, fun hno => ?_,
    fun l => ⟨list_logging host l w, list_world host l w, fun context fault h => h.list_shows,
      exists_list_shows⟩⟩
  · have hunprepared : Unprepared host o.toCommonOptions u "" fault := .filter hwrong
    exact (Hindered.unprepared hunprepared).runs
  · obtain ⟨ps, hbegins, hverdicts⟩ := begins_of_not_hindered hno
    obtain ⟨results, hrecords, hruns⟩ := hbegins.runs hverdicts
    have hfailures := hasFailures_iff_of_records hrecords
    refine ⟨ps, results, _, hbegins, hrecords, hruns, ?_, ?_⟩
    · exact (ite_eq_or_eq ..).symm
    · rw [← hfailures]
      split_ifs with h <;> simp [h]

end CommandLine

end Conformance
