import Conformance.Proofs.Catalog.Registration
import Conformance.Proofs.FileTree
import Conformance.Proofs.Run
import Conformance.Proofs.Stages
import Conformance.Rehearsal
import Mathlib.Data.List.Forall2
import Mathlib.Data.List.Perm.Basic

/-!
# Jobs do not depend on each other

A runner without memory answers a process of a job by what it is asked, in what environment, and by
what is in the scratch directory of the job; where that directory is does not matter, nor what else
is on the host or was run before. Against such a runner a job comes to the same in any world. A run
of some of the jobs, or of all of them in another order, then has the results that it had for them
in a run of all.

## Main definitions

* `Job.call?`: what a stage of a job asks for in a scratch directory
* `Runner.Memoryless`: a runner without memory
* `Stage.SameShape`, `Stage.Corresponds`: what the stages of a job have in common in two scratch
  directories
* `Runner.byProgram`: a runner that goes by the names of programs
* `JobResult.untimed`: a result, whatever time the job took

## Main results

* `Stage.perform_corresponding`: stages that correspond come to the same
* `Job.result_unaffected`: a job comes to the same in any world
* `runJobs_of_outcomes`, `outcomes_of_runJobs`: a run has the results that its jobs have alone
* `Catalog.jobs_independent`: what a run of all jobs says of other runs
-/

namespace Conformance

variable {σ : Type}

/-! ## Runners without memory -/

namespace Job

/-- The place of a scratch directory, by its number. -/
def scratchPlace (n : Nat) : Place :=
  scratchParent ++ [FileTree.scratchName n]

theorem scratchPlace_ne_nil (n : Nat) : scratchPlace n ≠ [] :=
  List.append_ne_nil_of_right_ne_nil _ (List.cons_ne_nil _ _)

/-- What the `k`-th stage of a job asks for in the `n`-th scratch directory, given the standard
output of the stage before it. -/
def call? (job : Job) (config : Config) (n k : Nat) (before : String) : Option Invocation :=
  (job.stages config (placePath (scratchPlace n)))[k]?.map fun s => config.prepare (s.call before)

end Job

/-- **A runner without memory**, as far as a job is concerned. A stage of the job gets the same
answer, and the scratch directory of the job is left the same, wherever it is, as long as the same
was in it; what was run before, and anything else on the host, does not matter. The path of the
scratch directory is opaque: it is all in which the two requests of a stage differ. -/
structure Runner.Memoryless (runner : Runner σ) (config : Config) (job : Job) : Prop where
  answer_eq : ∀ {m n k : Nat} {before : String} {call call' : Invocation} {w w' : World σ},
    job.call? config m k before = some call → job.call? config n k before = some call' →
    w.files.AlikeBelow (Job.scratchPlace m) w'.files (Job.scratchPlace n) →
    (runner.run call config.environment w).1 = (runner.run call' config.environment w').1
  alike : ∀ {m n k : Nat} {before : String} {call call' : Invocation} {w w' : World σ},
    job.call? config m k before = some call → job.call? config n k before = some call' →
    w.files.AlikeBelow (Job.scratchPlace m) w'.files (Job.scratchPlace n) →
    (runner.run call config.environment w).2.files.AlikeBelow (Job.scratchPlace m)
      (runner.run call' config.environment w').2.files (Job.scratchPlace n)

/-- One run of a stage in two scratch directories in which the same is. -/
theorem Runner.Memoryless.run_cases {runner : Runner σ} {config : Config} {job : Job}
    (h : runner.Memoryless config job) {m n k : Nat} {before : String} {call call' : Invocation}
    (hcall : job.call? config m k before = some call)
    (hcall' : job.call? config n k before = some call') {w w' : World σ}
    (hw : w.files.AlikeBelow (Job.scratchPlace m) w'.files (Job.scratchPlace n)) :
    ∃ answer u u', runner.run call config.environment w = (answer, u) ∧
      runner.run call' config.environment w' = (answer, u') ∧
      u.files.AlikeBelow (Job.scratchPlace m) u'.files (Job.scratchPlace n) :=
  ⟨_, _, (runner.run call' config.environment w').2, rfl,
    Prod.ext (h.answer_eq hcall hcall' hw).symm rfl, h.alike hcall hcall' hw⟩

/-! ## Names of programs -/

namespace Rehearsal

/-- A program is known by what stands behind the last slash. -/
theorem programName_eq {program name : String} (before : List Char)
    (h : program.toList = before ++ name.toList) (hname : '/' ∉ name.toList)
    (hbefore : ∀ c ∈ before.getLast?, c = '/') : programName program = name := by
  have hown : ∀ c ∈ name.toList.reverse, decide (c ≠ '/') = true := by
    intro c hc
    apply decide_eq_true
    rintro rfl
    exact hname (List.mem_reverse.mp hc)
  have hrest : before.reverse.takeWhile (· ≠ '/') = [] := by
    rw [← List.head?_reverse] at hbefore
    cases hreverse : before.reverse with
    | nil => rfl
    | cons c cs =>
      rw [hreverse] at hbefore
      simp [hbefore c rfl]
  rw [programName, h, List.reverse_append, List.takeWhile_append_of_pos hown, hrest,
    List.append_nil, List.reverse_reverse, String.ofList_toList]

/-- A program in a directory is known by its own name, whatever the directory is. -/
theorem programName_join (base : Path) {name : String} (h : '/' ∉ name.toList) :
    programName (Path.join base name) = name := by
  unfold Path.join
  split
  · next hhead => exact absurd (List.mem_of_mem_head? hhead) h
  · exact programName_eq [] rfl h nofun
  · next hlast _ =>
    refine programName_eq base.toList String.toList_append h fun c hc => ?_
    rw [hlast] at hc
    exact (Option.some.inj hc).symm
  · refine programName_eq (base.toList ++ ['/']) ?_ h fun c hc => ?_
    · rw [String.toList_append, String.toList_append]
      rfl
    · simpa [eq_comm] using hc

end Rehearsal

/-! ## One job -/

/-- Two stages are of one shape: they write the same file, judge outputs alike, and ask for programs
of one name that are to be instrumented or not alike. -/
structure Stage.SameShape (s s' : Stage) : Prop where
  file : s.file? = s'.file?
  check : s.check = s'.check
  instrument : ∀ before, (s.call before).instrument = (s'.call before).instrument
  programName : ∀ before, Rehearsal.programName (s.call before).program =
    Rehearsal.programName (s'.call before).program

theorem Stage.SameShape.wraps_eq {s s' : Stage} (h : s.SameShape s') (config : Config)
    (before : String) : config.wraps (s.call before) = config.wraps (s'.call before) := by
  rw [Config.wraps, Config.wraps, h.instrument]

theorem Stage.SameShape.programName_prepare {s s' : Stage} (h : s.SameShape s') (config : Config)
    (before : String) : Rehearsal.programName (config.prepare (s.call before)).program =
      Rehearsal.programName (config.prepare (s'.call before)).program := by
  rw [Config.prepare, Config.prepare, h.wraps_eq]
  split
  · rfl
  · exact h.programName before

/-- **Two stages correspond** in two scratch directories: they write the same file, judge outputs
alike, and are answered alike as long as the same is in the directories. -/
structure Stage.Corresponds (runner : Runner σ) (config : Config) (p p' : Place) (s s' : Stage) :
    Prop where
  file : s.file? = s'.file?
  check : s.check = s'.check
  interpret : ∀ before o,
    config.interpret (s.call before) o = config.interpret (s'.call before) o
  run : ∀ {before w w'}, w.files.AlikeBelow p w'.files p' → ∃ answer u u',
    runner.run (config.prepare (s.call before)) config.environment w = (answer, u) ∧
      runner.run (config.prepare (s'.call before)) config.environment w' = (answer, u') ∧
      u.files.AlikeBelow p u'.files p'

theorem Stage.alikeBelow_enter {p p' : Place} {s s' : Stage} (file : s.file? = s'.file?)
    {w w' : World σ} (hw : w.files.AlikeBelow p w'.files p') (hp : p ≠ []) (hp' : p' ≠ [])
    (before : String) :
    (s.enter p before w).files.AlikeBelow p (s'.enter p' before w').files p' := by
  unfold enter
  rw [← file]
  cases s.file? with
  | none => exact hw
  | some name => exact hw.write hp hp' name _

/-- **Stages that correspond come to the same**, if the same is in the two scratch directories. -/
theorem Stage.perform_corresponding {runner : Runner σ} {config : Config} {p p' : Place}
    {stages stages' : List Stage} (h : List.Forall₂ (Corresponds runner config p p') stages stages')
    (hp : p ≠ []) (hp' : p' ≠ []) (before : String) {w w' : World σ}
    (hw : w.files.AlikeBelow p w'.files p') :
    ((chain stages before).perform runner config p w).result =
      ((chain stages' before).perform runner config p' w').result := by
  -- from stage to stage the directories hold the same
  induction h generalizing before w w' with
  | nil => rfl
  | @cons s s' rest rest' hs hrest ih =>
    rw [perform_cons, perform_cons]
    obtain ⟨answer, u, u', hrun, hrun', hu⟩ :=
      hs.run (alikeBelow_enter hs.file hw hp hp' before)
    cases answer with
    | error failure =>
      rw [Procedure.perform_run_error p _ hrun, Procedure.perform_run_error p' _ hrun']
    | ok o =>
      rw [Procedure.perform_run_ok p _ hrun, Procedure.perform_run_ok p' _ hrun', hs.check,
        hs.interpret]
      cases s'.check (config.interpret (s'.call before) o) with
      | finished verdict => rfl
      | proceed => exact ih o.stdout hu

namespace Job

variable {runner : Runner σ} {config : Config} {job : Job}

/-- In two scratch directories the stages of a job are of one shape. -/
theorem stages_sameShape (job : Job) (config : Config) (scratch scratch' : Path) :
    List.Forall₂ Stage.SameShape (job.stages config scratch) (job.stages config scratch') := by
  -- a checker is run from the scratch directory, every other program from elsewhere
  have hchecker : Rehearsal.programName (Path.join scratch "model.exe") =
      Rehearsal.programName (Path.join scratch' "model.exe") := by
    rw [Rehearsal.programName_join _ (by decide), Rehearsal.programName_join _ (by decide)]
  have hown : ∀ {s s' : Stage}, s.file? = s'.file? → s.check = s'.check →
      (∀ before, (s.call before).instrument = (s'.call before).instrument) →
      (∀ before, (s.call before).program = (s'.call before).program) → s.SameShape s' :=
    fun file check mark program => ⟨file, check, mark, fun before => by rw [program]⟩
  have hsame : ∀ s : Stage, s.SameShape s := fun _ => hown rfl rfl (fun _ => rfl) fun _ => rfl
  unfold stages
  cases job.tool with
  | executable => exact .cons (hsame _) .nil
  | checker v =>
    exact .cons (hown rfl rfl (fun _ => rfl) fun _ => rfl)
      (.cons (hown rfl rfl (fun _ => rfl) fun _ => rfl)
        (.cons ⟨rfl, rfl, fun _ => rfl, fun _ => hchecker⟩ (.cons (hsame _) .nil)))
  | murphi2c => exact .cons (hsame _) (.cons (hown rfl rfl (fun _ => rfl) fun _ => rfl) .nil)
  | murphi2cHeader =>
    exact .cons (hsame _) (.cons (hown rfl rfl (fun _ => rfl) fun _ => rfl)
      (.cons (hown rfl rfl (fun _ => rfl) fun _ => rfl) .nil))
  | murphi2uclid => exact .cons (hsame _) (.cons (hown rfl rfl (fun _ => rfl) fun _ => rfl) .nil)
  | murphi2xml => exact .cons (hsame _) (.cons (hsame _) .nil)

/-- What a stage asks for in two scratch directories is of one shape. -/
theorem sameShape_of_call? {m n k : Nat} {before : String} {call call' : Invocation}
    (hcall : job.call? config m k before = some call)
    (hcall' : job.call? config n k before = some call') :
    ∃ s s' : Stage, s.SameShape s' ∧ call = config.prepare (s.call before) ∧
      call' = config.prepare (s'.call before) := by
  obtain ⟨s, hs, rfl⟩ := Option.map_eq_some_iff.mp hcall
  obtain ⟨s', hs', rfl⟩ := Option.map_eq_some_iff.mp hcall'
  obtain ⟨hk, rfl⟩ := List.getElem?_eq_some_iff.mp hs
  obtain ⟨hk', rfl⟩ := List.getElem?_eq_some_iff.mp hs'
  exact ⟨_, _, (List.forall₂_iff_get.mp (job.stages_sameShape config _ _)).2 k hk hk', rfl, rfl⟩

/-- **Against a runner without memory the stages of a job correspond** in any two scratch
directories. -/
theorem stages_correspond (h : runner.Memoryless config job) (m n : Nat) :
    List.Forall₂ (Stage.Corresponds runner config (scratchPlace m) (scratchPlace n))
      (job.stages config (placePath (scratchPlace m)))
      (job.stages config (placePath (scratchPlace n))) := by
  have hshape := job.stages_sameShape config (placePath (scratchPlace m))
    (placePath (scratchPlace n))
  rw [List.forall₂_iff_get] at hshape ⊢
  obtain ⟨hlength, hget⟩ := hshape
  refine ⟨hlength, fun k hk hk' => ?_⟩
  have hstage := hget k hk hk'
  refine ⟨hstage.file, hstage.check, fun before o => ?_, fun {before w w'} hw => ?_⟩
  · rw [Config.interpret, Config.interpret, hstage.wraps_eq]
  · have hcall : ∀ {i} (hi : k < (job.stages config (placePath (scratchPlace i))).length),
        job.call? config i k before = some (config.prepare
          (((job.stages config (placePath (scratchPlace i))).get ⟨k, hi⟩).call before)) := by
      intro i hi
      rw [call?, List.getElem?_eq_getElem hi]
      rfl
    exact h.run_cases (hcall hk) (hcall hk') hw

/-- **A job comes to the same in any world**, against a runner without memory. -/
theorem result_unaffected (h : runner.Memoryless config job) (w w' : World σ) :
    (job.perform runner config w).result = (job.perform runner config w').result := by
  obtain ⟨m, hname, hfree⟩ := w.files.exists_freshName scratchParent
  obtain ⟨n, hname', hfree'⟩ := w'.files.exists_freshName scratchParent
  by_cases htool : job.tool = .executable
  · -- a test program has no scratch directory, and there is nothing where one could be
    let call : Invocation := { program := job.input.path }
    have hcall : ∀ i, job.call? config i 0 "" = some (config.prepare call) := by
      intro i
      rw [call?, stages, htool]
      rfl
    obtain ⟨answer, u, u', hrun, hrun', -⟩ := h.run_cases (hcall m) (hcall n)
      (FileTree.alikeBelow_of_not_occupied hfree hfree' (scratchPlace_ne_nil m)
        (scratchPlace_ne_nil n))
    simp only [perform, if_pos htool, executableProcedure]
    cases answer with
    | error failure =>
      rw [Procedure.perform_run_error [] _ hrun, Procedure.perform_run_error [] _ hrun']
    | ok o =>
      rw [Procedure.perform_run_ok [] _ hrun, Procedure.perform_run_ok [] _ hrun']
      rfl
  · simp only [perform, if_neg htool]
    cases job.input.expectations.skipReason with
    | some reason => rfl
    | none =>
      simp only [inScratch, procedure_eq_chain, hname, hname']
      refine Stage.perform_corresponding (stages_correspond h m n) (scratchPlace_ne_nil m)
        (scratchPlace_ne_nil n) "" ?_
      exact FileTree.alikeBelow_put_directory hfree hfree' (scratchPlace_ne_nil m)
        (scratchPlace_ne_nil n)

end Job

/-! ## Runners that go by the name of a program -/

/-- The runner that answers by the name of a program alone and leaves the host as it is. -/
def Runner.byProgram (answer : String → Output) : Runner Unit where
  run call _ w := (.ok (answer (Rehearsal.programName call.program)), w)

theorem Runner.byProgram_memoryless (answer : String → Output) (config : Config) (job : Job) :
    (byProgram answer).Memoryless config job where
  answer_eq hcall hcall' _ := by
    obtain ⟨s, s', hshape, rfl, rfl⟩ := Job.sameShape_of_call? hcall hcall'
    exact congrArg (Except.ok ∘ answer) (hshape.programName_prepare config _)
  alike _ _ hw := hw

/-! ## Several jobs -/

/-- The result, whatever time the job took. -/
def JobResult.untimed (r : JobResult) : JobResult :=
  { r with duration := 0 }

@[simp] theorem JobResult.untimed_verdict (r : JobResult) : r.untimed.verdict = r.verdict := rfl

@[simp] theorem JobResult.untimed_key (r : JobResult) : r.untimed.key = r.key := rfl

theorem JobResult.Records.untimed_eq {performed : Job × Performance Verdict σ} {r r' : JobResult}
    (h : Records performed r) (h' : Records performed r') : r.untimed = r'.untimed := by
  have hverdict : r.verdict = r'.verdict := Except.ok.inj (h.verdict.symm.trans h'.verdict)
  rw [untimed, untimed, h.suite, h.id, h.path, hverdict, ← h'.suite, ← h'.id, ← h'.path]

/-- The counts of some results do not depend on their times. -/
theorem Summary.ofResults_map_untimed (results : List JobResult) :
    ofResults (results.map JobResult.untimed) = ofResults results := by
  rw [ofResults, ofResults, List.foldl_map]
  rfl

section Jobs

variable {runner : Runner σ} {config : Config} {jobs : List Job} {results : List JobResult}

/-- In any world the job comes to what the result records. -/
def Job.ComesTo (runner : Runner σ) (config : Config) (job : Job) (r : JobResult) : Prop :=
  ∀ w, JobResult.Records (job, job.perform runner config w) r

/-- **The results of a run are what its jobs come to in any world**, against a runner without
memory. -/
theorem outcomes_of_runJobs (h : ∀ job ∈ jobs, runner.Memoryless config job) {w : World σ}
    (hrun : (runJobs runner config jobs w).result = .ok results) :
    List.Forall₂ (Job.ComesTo runner config) jobs results := by
  have hrecords := records_of_runJobs hrun
  clear hrun
  induction jobs generalizing w results with
  | nil =>
    cases hrecords
    exact .nil
  | cons job jobs ih =>
    obtain ⟨hjob, hjobs⟩ := List.forall_mem_cons.mp h
    rw [Job.performEach] at hrecords
    cases hrecords with
    | cons hfirst hrest =>
      refine .cons (fun u => ⟨hfirst.suite, hfirst.id, hfirst.path, ?_⟩) (ih hjobs hrest)
      exact (Job.result_unaffected hjob u w).trans hfirst.verdict

/-- **A run has the results that its jobs come to**, but for their times. -/
theorem runJobs_of_outcomes (h : List.Forall₂ (Job.ComesTo runner config) jobs results)
    (w : World σ) :
    ∃ results', (runJobs runner config jobs w).result = .ok results' ∧
      results'.map JobResult.untimed = results.map JobResult.untimed := by
  induction h generalizing w with
  | nil => exact ⟨[], rfl, rfl⟩
  | @cons job r jobs results hjob hjobs ih =>
    -- the job comes to the same in this world, and the others do in the one that it leaves
    obtain ⟨rest, hrest, huntimed⟩ := ih (job.perform runner config w).world
    let elapsed := runner.clock (job.perform runner config w).world - runner.clock w
    refine ⟨job.result r.verdict elapsed :: rest, ?_, ?_⟩
    · rw [runJobs_cons_of_verdict (hjob w).verdict, hrest]
      rfl
    · have hfirst : (job.result r.verdict elapsed).untimed = r.untimed :=
        JobResult.Records.untimed_eq ⟨rfl, rfl, rfl, (hjob w).verdict⟩ (hjob w)
      rw [List.map_cons, List.map_cons, hfirst, huntimed]

theorem Job.ComesTo.key_eq {job : Job} {r : JobResult} (h : job.ComesTo runner config r)
    (w : World σ) : job.key = r.key :=
  (h w).key_eq

/-- Results have the keys of the jobs that come to them, in their order. -/
theorem map_key_of_outcomes (h : List.Forall₂ (Job.ComesTo runner config) jobs results)
    (w : World σ) : results.map JobResult.key = jobs.map Job.key := by
  induction h with
  | nil => rfl
  | cons hjob _ ih => rw [List.map_cons, List.map_cons, ih, hjob.key_eq w]

end Jobs

namespace Catalog

/-- **Jobs are independent of each other**, against a runner without memory. If a run of all jobs
comes to a report, a run of those that a filter chooses comes to one too, in any world: it has the
results of the chosen jobs, in the same order and but for their times, and their counts. So does a
run of a catalog that holds the same jobs in another order: its results are the same but for their
order and times, and in a catalog that is filled by requests each key has the verdict that it
had. -/
theorem jobs_independent {runner : Runner σ} {config : Config} {c : Catalog}
    (h : ∀ job ∈ c.allJobs, runner.Memoryless config job) {w : World σ} {report : Report}
    (hrun : (c.run runner config .all w).result = .ok report) :
    (∀ (f : Filter) (u : World σ),
      let chosen := report.results.filter fun r => f.selects r.key
      ∃ results, (c.run runner config f u).result = .ok (.ofResults results) ∧
        results.map JobResult.untimed = chosen.map JobResult.untimed ∧
        Summary.ofResults results = Summary.ofResults chosen) ∧
      ∀ (c' : Catalog) (u : World σ), c'.allJobs.Perm c.allJobs →
        ∃ results, (c'.run runner config .all u).result = .ok (.ofResults results) ∧
          (results.map JobResult.untimed).Perm (report.results.map JobResult.untimed) ∧
          (c.WellFormed → ∀ r ∈ results, ∀ r' ∈ report.results,
            r.key = r'.key → r.verdict = r'.verdict) := by
  obtain ⟨results, hresults, rfl⟩ := run_eq_ok_iff.mp hrun
  rw [jobs_all] at hresults
  have houtcomes := outcomes_of_runJobs h hresults
  constructor
  · intro f u chosen
    -- the filter chooses a job exactly if it chooses its result
    have hselects : ∀ (job : Job) (r : JobResult), job.ComesTo runner config r →
        (f.selects job.key = true ↔ f.selects r.key = true) := by
      intro job r hjob
      rw [hjob.key_eq w]
    have hchosen : List.Forall₂ (Job.ComesTo runner config) (c.jobs f) chosen :=
      List.rel_filter hselects houtcomes
    obtain ⟨results', hrun', huntimed⟩ := runJobs_of_outcomes hchosen u
    refine ⟨results', run_eq_ok_iff.mpr ⟨results', hrun', rfl⟩, huntimed, ?_⟩
    rw [← Summary.ofResults_map_untimed, huntimed, Summary.ofResults_map_untimed]
  · intro c' u hperm
    obtain ⟨reordered, houtcomes', hperm'⟩ := List.perm_comp_forall₂ hperm houtcomes
    obtain ⟨results', hrun', huntimed⟩ := runJobs_of_outcomes houtcomes' u
    have hsame : (results'.map JobResult.untimed).Perm (results.map JobResult.untimed) := by
      rw [huntimed]
      exact hperm'.map _
    refine ⟨results', run_eq_ok_iff.mpr ⟨results', ?_, rfl⟩, hsame, ?_⟩
    · rwa [jobs_all]
    · intro hc r hr r' hr' hrr'
      have hkeys : (results.map JobResult.key).Nodup := by
        rw [map_key_of_outcomes houtcomes w]
        exact hc.nodup_keys
      -- the result of the same job in the first run has the same key, and no other has
      obtain ⟨r'', hr'', heq⟩ := List.mem_map.mp (hsame.subset (List.mem_map_of_mem hr))
      have hkey' : r''.key = r'.key := by
        rw [← hrr', ← r.untimed_key, ← heq, r''.untimed_key]
      obtain rfl := List.inj_on_of_nodup_map hkeys hr'' hr' hkey'
      rw [← r.untimed_verdict, ← heq, r''.untimed_verdict]

/-- A run of a test program and of a model whose C code a compiler refuses: alone, in any world, and
with the program last. -/
theorem jobs_independent_of_refused :
    let runner := Runner.byProgram fun name =>
      if name = "cc" then { exitCode := 1, stderr := "error" } else {}
    let program : Request := ⟨.executable, "test_check", .executable "check"⟩
    let model : Request := ⟨.murphi2c, "test_model_m", ⟨"model.m", "", {}⟩⟩
    let passed : JobResult := ⟨"executable", "test_check", "check", .pass, 0⟩
    let refused : JobResult := ⟨"murphi2c", "test_model_m", "model.m",
      .fail .toolInvocation "unexpected C compiler exit status 1:\nerror", 0⟩
    ((afterRequests [model, program]).run runner .bare .all ⟨{}, ()⟩).result =
        .ok (.ofResults [passed, refused]) ∧
      ∀ u, (∃ results, ((afterRequests [model, program]).run runner .bare
          (.glob [.literal 'm', .star]) u).result = .ok (.ofResults results) ∧
          results.map JobResult.untimed = [refused]) ∧
        ∃ results, ((Catalog.mk
          [⟨"murphi2c", [model.job], []⟩, ⟨"executable", [program.job], []⟩]).run
            runner .bare .all u).result = .ok (.ofResults results) ∧
          ∀ r ∈ results, ∀ r' ∈ [passed, refused], r.key = r'.key → r.verdict = r'.verdict := by
  intro runner program model passed refused
  have hrun : ((afterRequests [model, program]).run runner .bare .all ⟨{}, ()⟩).result =
      .ok (.ofResults [passed, refused]) := by
    decide +kernel
  obtain ⟨hfilter, horder⟩ :=
    jobs_independent (fun job _ => Runner.byProgram_memoryless _ _ job) hrun
  refine ⟨hrun, fun u => ⟨?_, ?_⟩⟩
  · obtain ⟨results, hresult, huntimed, -⟩ := hfilter (.glob [.literal 'm', .star]) u
    exact ⟨results, hresult, huntimed.trans (by decide +kernel)⟩
  · obtain ⟨results, hresult, -, hverdicts⟩ := horder
      ⟨[⟨"murphi2c", [model.job], []⟩, ⟨"executable", [program.job], []⟩]⟩ u (by decide +kernel)
    exact ⟨results, hresult, hverdicts (wellFormed_afterRequests _)⟩

end Catalog

end Conformance
