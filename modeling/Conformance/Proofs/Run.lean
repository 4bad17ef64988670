import Conformance.CommandLine
import Mathlib.Data.List.Forall2

/-!
# A run is its jobs, one after the other

A run performs the chosen jobs in their order, each in the world that the one before left. A verdict
of any kind is recorded and the run goes on; a fault ends it, and no later job begins. What is said
here of exchanges is what a runner sees: one that keeps a log of its own logs exactly the exchanges
of the run.

## Main definitions

* `Runner.logging`: the runner that keeps a log of what it was asked and what it answered
* `Job.performEach`: the performances of jobs one after the other, whatever they come to
* `Job.RecordedAs`: a result records a job with its verdict

## Main results

* `Procedure.perform_logging`, `runJobs_logging`: the log is the list of exchanges
* `runJobs_of_verdicts`: jobs that all come to a verdict
* `runJobs_of_fault`: jobs of which one comes to a fault
* `records_of_runJobs`: what the results of a run record
* `Catalog.run_in_turn`: a run is the performances of its jobs
-/

namespace Conformance

variable {α σ : Type}

/-! ## The log of a runner -/

/-- The world beside a log. -/
def World.logged (w : World σ) (log : List Exchange) : World (σ × List Exchange) :=
  ⟨w.files, w.state, log⟩

/-- The world without its log. -/
def World.unlogged (w : World (σ × List Exchange)) : World σ :=
  ⟨w.files, w.state.1⟩

@[simp] theorem World.unlogged_logged (w : World σ) (log : List Exchange) :
    (w.logged log).unlogged = w := rfl

/-- **The runner that keeps a log**: it answers as another one does, and adds every call with its
answer at the end of the log. -/
def Runner.logging (runner : Runner σ) : Runner (σ × List Exchange) where
  run call environment w :=
    let (answer, u) := runner.run call environment w.unlogged
    (answer, u.logged (w.state.2 ++ [⟨call, environment, answer⟩]))
  clock w := runner.clock w.unlogged

theorem Runner.logging_run (runner : Runner σ) (call : Invocation) (environment : Environment)
    {w u : World σ} {answer : Except SpawnFailure Output} (log : List Exchange)
    (h : runner.run call environment w = (answer, u)) :
    runner.logging.run call environment (w.logged log) =
      (answer, u.logged (log ++ [⟨call, environment, answer⟩])) := by
  simp only [logging, World.unlogged_logged, h]
  rfl

@[simp] theorem Runner.logging_clock (runner : Runner σ) (w : World σ) (log : List Exchange) :
    runner.logging.clock (w.logged log) = runner.clock w := rfl

/-- The performance with the world that a runner with a log leaves: behind what was in the log
stand the exchanges. -/
def Performance.logged (p : Performance α σ) (log : List Exchange) :
    Performance α (σ × List Exchange) :=
  ⟨p.result, p.exchanges, p.world.logged (log ++ p.exchanges)⟩

/-- **The log of a performance is the list of its exchanges.** -/
theorem Procedure.perform_logging (runner : Runner σ) (config : Config) (scratch : Place)
    (procedure : Procedure α) (w : World σ) (log : List Exchange) :
    procedure.perform runner.logging config scratch (w.logged log) =
      (procedure.perform runner config scratch w).logged log := by
  induction procedure generalizing w log with
  | done result => simp [Performance.logged]
  | write name text next ih =>
    rw [perform_write, perform_write]
    exact ih { w with files := w.files.write (scratch ++ [name]) (Text.encode text) } log
  | run call next ih =>
    -- the first exchange is logged before those of the rest
    rcases hrun : runner.run (config.prepare call) config.environment w with ⟨answer, u⟩
    have hlogged := runner.logging_run _ _ log hrun
    cases answer with
    | error failure => simp only [perform, hrun, hlogged, Performance.logged]
    | ok o =>
      simp only [perform, hrun, hlogged, ih, Performance.logged, List.append_assoc,
        List.singleton_append]

namespace Job

theorem inScratch_logging (runner : Runner σ) (config : Config)
    (stages : Path → Procedure Verdict) (w : World σ) (log : List Exchange) :
    inScratch runner.logging config stages (w.logged log) =
      (inScratch runner config stages w).logged log := by
  let scratch := scratchParent ++ [w.files.freshName scratchParent]
  have hlogged := Procedure.perform_logging runner config scratch (stages (placePath scratch))
    { w with files := w.files.put scratch .directory } log
  -- the scratch directory is removed beside the log
  exact congrArg (fun p : Performance Verdict (σ × List Exchange) =>
    { p with world := { p.world with files := p.world.files.removeTree scratch } }) hlogged

theorem perform_logging (runner : Runner σ) (config : Config) (job : Job) (w : World σ)
    (log : List Exchange) :
    job.perform runner.logging config (w.logged log) =
      (job.perform runner config w).logged log := by
  unfold perform
  by_cases htool : job.tool = .executable
  · rw [if_pos htool, if_pos htool]
    exact Procedure.perform_logging ..
  · rw [if_neg htool, if_neg htool]
    cases job.input.expectations.skipReason with
    | some reason => simp [Performance.logged]
    | none => exact inScratch_logging ..

end Job

/-! ## Jobs one after the other -/

section Jobs

variable {runner : Runner σ} {config : Config} {job : Job} {jobs : List Job} {w : World σ}

theorem runJobs_cons_of_fault {fault : Fault}
    (h : (job.perform runner config w).result = .error fault) :
    runJobs runner config (job :: jobs) w =
      ⟨.error fault, (job.perform runner config w).exchanges,
        (job.perform runner config w).world⟩ := by
  simp only [runJobs, h]

theorem runJobs_cons_of_verdict {verdict : Verdict}
    (h : (job.perform runner config w).result = .ok verdict) :
    let p := job.perform runner config w
    let rest := runJobs runner config jobs p.world
    runJobs runner config (job :: jobs) w =
      ⟨rest.result.map (job.result verdict (runner.clock p.world - runner.clock w) :: ·),
        p.exchanges ++ rest.exchanges, rest.world⟩ := by
  simp only [runJobs, h]

/-- **The log of some jobs is the list of their exchanges.** -/
theorem runJobs_logging (runner : Runner σ) (config : Config) (jobs : List Job) (w : World σ)
    (log : List Exchange) :
    runJobs runner.logging config jobs (w.logged log) =
      (runJobs runner config jobs w).logged log := by
  induction jobs generalizing w log with
  | nil => simp [Performance.logged]
  | cons job jobs ih =>
    have hlogged := job.perform_logging runner config w log
    have hsame : (job.perform runner.logging config (w.logged log)).result =
        (job.perform runner config w).result := by
      rw [hlogged]
      rfl
    cases hresult : (job.perform runner config w).result with
    | error fault =>
      rw [runJobs_cons_of_fault hresult, runJobs_cons_of_fault (hsame.trans hresult), hlogged]
      rfl
    | ok verdict =>
      -- the rest of the jobs finds the exchanges of the first in the log
      have hrest := ih (job.perform runner config w).world
        (log ++ (job.perform runner config w).exchanges)
      rw [runJobs_cons_of_verdict hresult, runJobs_cons_of_verdict (hsame.trans hresult), hlogged]
      simp only [Performance.logged, Runner.logging_clock, hrest, List.append_assoc]

end Jobs

/-- The performances of jobs one after the other, each job with its own, in the world that the one
before left, whatever they come to. -/
def Job.performEach (runner : Runner σ) (config : Config) :
    List Job → World σ → List (Job × Performance Verdict σ)
  | [], _ => []
  | job :: jobs, w =>
    let p := job.perform runner config w
    (job, p) :: performEach runner config jobs p.world

theorem Job.map_fst_performEach (runner : Runner σ) (config : Config) (jobs : List Job)
    (w : World σ) : (performEach runner config jobs w).map Prod.fst = jobs := by
  induction jobs generalizing w with
  | nil => rfl
  | cons job jobs ih =>
    rw [performEach, List.map_cons, ih]

/-- The key of the job that a result records. -/
def JobResult.key (r : JobResult) : String :=
  r.suite ++ "." ++ r.id

/-- **A result records a job** with the verdict that its performance came to. -/
structure JobResult.Records (performed : Job × Performance Verdict σ) (r : JobResult) : Prop where
  suite : r.suite = performed.1.suite
  id : r.id = performed.1.id
  path : r.path = performed.1.input.path
  verdict : performed.2.result = .ok r.verdict

theorem JobResult.Records.key_eq {performed : Job × Performance Verdict σ} {r : JobResult}
    (h : Records performed r) : performed.1.key = r.key := by
  rw [Job.key, JobResult.key, h.suite, h.id]

/-- Results that record jobs have the keys of the jobs, in their order. -/
theorem JobResult.map_key_of_records {ps : List (Job × Performance Verdict σ)}
    {results : List JobResult} (h : List.Forall₂ Records ps results) :
    results.map JobResult.key = (ps.map Prod.fst).map Job.key := by
  induction h with
  | nil => rfl
  | cons hrecords _ ih => simp only [List.map_cons, hrecords.key_eq, ih]

/-- The world that jobs leave which are performed one after the other. -/
def lastWorld (w : World σ) (ps : List (Job × Performance Verdict σ)) : World σ :=
  (ps.getLast?.map fun performed => performed.2.world).getD w

theorem lastWorld_cons (w : World σ) (job : Job) (p : Performance Verdict σ)
    (ps : List (Job × Performance Verdict σ)) :
    lastWorld w ((job, p) :: ps) = lastWorld p.world ps := by
  unfold lastWorld
  rw [List.getLast?_cons]
  cases ps.getLast? <;> rfl

section Jobs

variable {runner : Runner σ} {config : Config} {jobs : List Job} {w : World σ}

/-- **Jobs that all come to a verdict**, whatever it is, are all recorded, in their order. -/
theorem runJobs_of_verdicts
    (hall : ∀ performed ∈ Job.performEach runner config jobs w,
      ∃ verdict, performed.2.result = .ok verdict) :
    let ps := Job.performEach runner config jobs w
    let q := runJobs runner config jobs w
    (∃ results, q.result = .ok results ∧ List.Forall₂ JobResult.Records ps results) ∧
      q.exchanges = ps.flatMap (fun performed => performed.2.exchanges) ∧
      q.world = lastWorld w ps := by
  induction jobs generalizing w with
  | nil => exact ⟨⟨[], rfl, .nil⟩, rfl, rfl⟩
  | cons job jobs ih =>
    obtain ⟨verdict, hverdict⟩ := hall _ List.mem_cons_self
    obtain ⟨⟨results, hresult, hrecords⟩, hexchanges, hworld⟩ :=
      ih fun performed hp => hall performed (List.mem_cons_of_mem _ hp)
    intro ps q
    simp only [ps, q, Job.performEach, runJobs_cons_of_verdict hverdict, lastWorld_cons,
      List.flatMap_cons, hexchanges, hworld, hresult]
    exact ⟨⟨_, rfl, .cons ⟨rfl, rfl, rfl, hverdict⟩ hrecords⟩, trivial, trivial⟩

/-- **Jobs of which one comes to a fault** end with it: those before it are performed, and those
behind it are not begun. -/
theorem runJobs_of_fault {before after : List (Job × Performance Verdict σ)} {job : Job}
    {p : Performance Verdict σ} {fault : Fault}
    (hps : Job.performEach runner config jobs w = before ++ (job, p) :: after)
    (hbefore : ∀ performed ∈ before, ∃ verdict, performed.2.result = .ok verdict)
    (hfault : p.result = .error fault) :
    let q := runJobs runner config jobs w
    q.result = .error fault ∧
      q.exchanges = before.flatMap (fun performed => performed.2.exchanges) ++ p.exchanges ∧
      q.world = p.world := by
  induction jobs generalizing w before with
  | nil => simp [Job.performEach] at hps
  | cons first jobs ih =>
    cases before with
    | nil =>
      -- the fault is that of the first job
      obtain ⟨⟨rfl, rfl⟩, -⟩ : (first = job ∧ first.perform runner config w = p) ∧ _ := by
        simpa [Job.performEach] using hps
      simp [runJobs_cons_of_fault hfault]
    | cons performed before =>
      obtain ⟨rfl, hrest⟩ : (first, first.perform runner config w) = performed ∧
          Job.performEach runner config jobs (first.perform runner config w).world =
            before ++ (job, p) :: after := by
        simpa [Job.performEach] using hps
      -- the first job comes to a verdict, and the fault is found behind it
      obtain ⟨verdict, hverdict⟩ := hbefore _ List.mem_cons_self
      obtain ⟨hresult, hexchanges, hworld⟩ :=
        ih hrest fun performed hp => hbefore performed (List.mem_cons_of_mem _ hp)
      intro q
      simp only [q, runJobs_cons_of_verdict hverdict, hresult, hexchanges, hworld,
        List.flatMap_cons, List.append_assoc]
      exact ⟨rfl, trivial, trivial⟩

/-- Jobs all come to a verdict, or one is the first that comes to a fault. -/
theorem verdicts_or_fault (ps : List (Job × Performance Verdict σ)) :
    (∀ performed ∈ ps, ∃ verdict, performed.2.result = .ok verdict) ∨
      ∃ before job p after fault, ps = before ++ (job, p) :: after ∧
        (∀ performed ∈ before, ∃ verdict, performed.2.result = .ok verdict) ∧
        p.result = .error fault := by
  induction ps with
  | nil => exact .inl (List.forall_mem_nil _)
  | cons performed ps ih =>
    obtain ⟨job, p⟩ := performed
    cases hresult : p.result with
    | error fault => exact .inr ⟨[], job, p, ps, fault, rfl, List.forall_mem_nil _, hresult⟩
    | ok verdict =>
      rcases ih with hall | ⟨before, job', p', after, fault, rfl, hbefore, hfault⟩
      · exact .inl (List.forall_mem_cons.mpr ⟨⟨verdict, hresult⟩, hall⟩)
      · exact .inr ⟨(job, p) :: before, job', p', after, fault, rfl,
          List.forall_mem_cons.mpr ⟨⟨verdict, hresult⟩, hbefore⟩, hfault⟩

/-- **A run that comes to an end** has recorded every job, with the verdict that it came to. -/
theorem records_of_runJobs {results : List JobResult}
    (h : (runJobs runner config jobs w).result = .ok results) :
    List.Forall₂ JobResult.Records (Job.performEach runner config jobs w) results := by
  rcases verdicts_or_fault (Job.performEach runner config jobs w) with
    hall | ⟨before, job, p, after, fault, hps, hbefore, hfault⟩
  · obtain ⟨⟨results', hresults, hrecords⟩, -⟩ := runJobs_of_verdicts hall
    obtain rfl := Except.ok.inj (hresults.symm.trans h)
    exact hrecords
  · -- the first fault would be that of the run
    obtain ⟨hresult, -⟩ := runJobs_of_fault hps hbefore hfault
    rw [hresult] at h
    contradiction

end Jobs

/-! ## The run of a catalog -/

theorem CommandLine.list_of_prepared {host : Host σ} {o : CommonOptions} {f : Filter}
    {c : Catalog} {w : World σ} (h : prepare host o w.files = .ok (f, c)) :
    (list host o w).1.stdout = String.join (((c.jobs f).map Job.key).map (· ++ "\n")) := by
  simp only [list, h, List.map_map]
  rfl

/-- A run comes to the report of the results of its jobs. -/
theorem Catalog.run_eq_ok_iff {c : Catalog} {runner : Runner σ} {config : Config} {f : Filter}
    {w : World σ} {report : Report} :
    (c.run runner config f w).result = .ok report ↔
      ∃ results, (runJobs runner config (c.jobs f) w).result = .ok results ∧
        Report.ofResults results = report := by
  rw [run]
  dsimp only
  cases (runJobs runner config (c.jobs f) w).result <;> simp [Except.map]

/-- **A run is the performances of the chosen jobs, one after the other**, each in the world that
the one before left. What a runner is asked in a run is what the performances ask, in their order.
If they all come to a verdict, whatever it is, the report has one result for each job, in the order
of the keys that `list` prints for the same filter, with the suite, the name, the path and the
verdict of the job. If one comes to a fault, the run comes to the first, and no later job asks for
anything. -/
theorem Catalog.run_in_turn (c : Catalog) (runner : Runner σ) (config : Config) (f : Filter)
    (w : World σ) :
    let ps := Job.performEach runner config (c.jobs f) w
    let q := c.run runner config f w
    (∀ log, c.run runner.logging config f (w.logged log) = q.logged log) ∧
      ((∀ performed ∈ ps, ∃ verdict, performed.2.result = .ok verdict) →
        ∃ results, q.result = .ok (Report.ofResults results) ∧
          List.Forall₂ JobResult.Records ps results ∧
          results.map JobResult.key = (c.jobs f).map Job.key ∧
          q.exchanges = ps.flatMap (fun performed => performed.2.exchanges) ∧
          q.world = lastWorld w ps ∧
          ∀ {τ : Type} (host : CommandLine.Host τ) (o : CommonOptions) (u : World τ),
            CommandLine.prepare host o u.files = .ok (f, c) →
            (CommandLine.list host o u).1.stdout =
              String.join (results.map fun r => r.key ++ "\n")) ∧
      ∀ before job p after fault, ps = before ++ (job, p) :: after →
        (∀ performed ∈ before, ∃ verdict, performed.2.result = .ok verdict) →
        p.result = .error fault →
        q.result = .error fault ∧
          q.exchanges = before.flatMap (fun performed => performed.2.exchanges) ++ p.exchanges ∧
          q.world = p.world := by
  intro ps q
  refine ⟨fun log => ?_, fun hall => ?_, fun before job p after fault hps hbefore hfault => ?_⟩
  · simp only [q, run, runJobs_logging]
    rfl
  · obtain ⟨⟨results, hresult, hrecords⟩, hexchanges, hworld⟩ := runJobs_of_verdicts hall
    have hkeys : results.map JobResult.key = (c.jobs f).map Job.key := by
      rw [JobResult.map_key_of_records hrecords, Job.map_fst_performEach]
    refine ⟨results, ?_, hrecords, hkeys, hexchanges, hworld, fun host o u hprepare => ?_⟩
    · simp only [q, run, hresult]
      rfl
    · rw [CommandLine.list_of_prepared hprepare, ← hkeys, List.map_map]
      rfl
  · obtain ⟨hresult, hexchanges, hworld⟩ := runJobs_of_fault hps hbefore hfault
    refine ⟨?_, hexchanges, hworld⟩
    simp only [q, run, hresult]
    rfl

end Conformance
