import Conformance.Proofs.Catalog.Identity
import Mathlib.Data.List.Basic
import Mathlib.Data.List.Perm.Basic

/-!
# The registration of jobs

A request to add a job is refused exactly if its name is taken in its suite, and then nothing
changes. A job that is granted comes last in its suite, and the suite last in the catalog if it is
new. The jobs of a catalog are therefore those that were granted, each once, suite by suite.

## Main definitions

* `Catalog.Taken`: the name of a job is taken in its suite
* `Catalog.Added`: a job is added and all else stays
* `Catalog.granted`: the jobs of those requests that are granted
* `Catalog.Holds`: the jobs of a catalog, by the order in which they were added

## Main results

* `Catalog.WellFormed.submit_cases`: the two things that a request can do
* `Catalog.Holds.submit`, `Catalog.holds_afterRequests`: what a catalog holds after one request and
  after any
* `Catalog.Holds.perm_allJobs`: a catalog loses no job and has none twice
* `Catalog.registration_atomic`: requests are atomic and lose nothing
-/

namespace Conformance

/-- The complaint that the name of the job is taken in its suite. -/
def Job.duplicate (job : Job) : Fault :=
  .duplicateTest job.suite job.id job.input.path

/-- The suite with one more job, which comes last. -/
def Suite.add (s : Suite) (job : Job) : Suite :=
  { s with jobs := s.jobs ++ [job], ids := job.id :: s.ids }

@[simp] theorem Suite.add_name (s : Suite) (job : Job) : (s.add job).name = s.name := rfl

@[simp] theorem Suite.add_jobs (s : Suite) (job : Job) : (s.add job).jobs = s.jobs ++ [job] := rfl

theorem Suite.register_of_mem {s : Suite} {job : Job} (h : job.id ∈ s.ids)
    (hname : s.name = job.suite) : s.register job = (s, some job.duplicate) := by
  rw [register, if_pos h, hname, Job.duplicate]

theorem Suite.register_of_notMem {s : Suite} {job : Job} (h : job.id ∉ s.ids) :
    s.register job = (s.add job, none) := by
  rw [register, if_neg h, Suite.add]

namespace Catalog

variable {c c' : Catalog} {job : Job} {jobs : List Job} {ss ss' : List Suite}

/-! ## One request -/

/-- A job of the same suite and the same id is there already. -/
def Taken (c : Catalog) (job : Job) : Prop :=
  ∃ other ∈ c.allJobs, other.suite = job.suite ∧ other.id = job.id

/-- **A job is added**: it comes last in its suite, and the suite comes last if it is new. All other
suites stay as they are. -/
inductive Added (job : Job) : List Suite → List Suite → Prop
  | toSuite {s : Suite} (before after : List Suite) (suite : s.name = job.suite)
    (others : job.suite ∉ (before ++ after).map Suite.name) :
    Added job (before ++ s :: after) (before ++ s.add job :: after)
  | newSuite {ss : List Suite} (absent : job.suite ∉ ss.map Suite.name) :
    Added job ss (ss ++ [Suite.add { name := job.suite } job])

theorem submitTo_of_notMem (h : job.suite ∉ ss.map Suite.name) :
    submitTo job.suite job ss = (ss ++ [Suite.add { name := job.suite } job], none) := by
  induction ss with
  | nil => rfl
  | cons s ss ih =>
    rw [List.map_cons, List.mem_cons, not_or] at h
    rw [submitTo, if_neg (Ne.symm h.1), ih h.2]
    rfl

theorem submitTo_append {before : List Suite} (h : job.suite ∉ before.map Suite.name) {s : Suite}
    (hs : s.name = job.suite) (after : List Suite) :
    submitTo job.suite job (before ++ s :: after) =
      (before ++ (s.register job).1 :: after, (s.register job).2) := by
  induction before with
  | nil => simp [submitTo, hs]
  | cons t before ih =>
    rw [List.map_cons, List.mem_cons, not_or] at h
    rw [List.cons_append, submitTo, if_neg (Ne.symm h.1), ih h.2]
    rfl

/-- Where the suite of a job stands in a well-formed catalog. -/
theorem WellFormed.exists_suite (h : c.WellFormed) (hmem : job.suite ∈ c.suites.map Suite.name) :
    ∃ before s after, c.suites = before ++ s :: after ∧ s.name = job.suite ∧
      job.suite ∉ (before ++ after).map Suite.name := by
  obtain ⟨s, hs, hname⟩ := List.mem_map.mp hmem
  obtain ⟨before, after, hsplit⟩ := List.append_of_mem hs
  refine ⟨before, s, after, hsplit, hname, ?_⟩
  have hnodup := h.nodup_names
  rw [hsplit, List.map_append, List.map_cons, List.nodup_middle, List.nodup_cons] at hnodup
  rw [List.map_append, ← hname]
  exact hnodup.1

/-- The name of a job is taken if it is one of the ids of its suite. -/
theorem WellFormed.taken_iff (h : c.WellFormed) {s : Suite} (hs : s ∈ c.suites)
    (hname : s.name = job.suite) : c.Taken job ↔ job.id ∈ s.ids := by
  rw [(h.suites s hs).mem_ids, List.mem_map]
  constructor
  · rintro ⟨other, hother, hsuite, hid⟩
    obtain ⟨t, ht, hjob⟩ := List.mem_flatMap.mp hother
    -- suites of one name are one suite
    have hts : t.name = s.name := by
      rw [← (h.suites t ht).suite_eq other hjob, hsuite, hname]
    obtain rfl := List.inj_on_of_nodup_map h.nodup_names ht hs hts
    exact ⟨other, hjob, hid⟩
  · rintro ⟨other, hother, hid⟩
    refine ⟨other, List.mem_flatMap.mpr ⟨s, hs, hother⟩, ?_, hid⟩
    rw [(h.suites s hs).suite_eq other hother, hname]

/-- Without its suite the name of a job is free. -/
theorem WellFormed.not_taken (h : c.WellFormed) (hnew : job.suite ∉ c.suites.map Suite.name) :
    ¬ c.Taken job := by
  rintro ⟨other, hother, hsuite, -⟩
  obtain ⟨s, hs, hjob⟩ := List.mem_flatMap.mp hother
  apply hnew
  rw [← hsuite, (h.suites s hs).suite_eq other hjob]
  exact List.mem_map_of_mem hs

/-- **What a request does**: it is refused and nothing changes, because the name is taken, or the
job is added. -/
theorem WellFormed.submit_cases (h : c.WellFormed) (r : Request) :
    c.Taken r.job ∧ c.submit r = (c, some r.job.duplicate) ∨
      ¬ c.Taken r.job ∧ ∃ c', c.submit r = (c', none) ∧ Added r.job c.suites c'.suites := by
  by_cases hmem : r.job.suite ∈ c.suites.map Suite.name
  · obtain ⟨before, s, after, hsplit, hname, hothers⟩ := h.exists_suite hmem
    have htaken := h.taken_iff (hsplit ▸ List.mem_append_right _ List.mem_cons_self) hname
    have hbefore : r.job.suite ∉ before.map Suite.name := fun hb =>
      hothers (List.map_append ▸ List.mem_append_left _ hb)
    have hsubmit := submitTo_append hbefore hname after
    rw [← hsplit] at hsubmit
    by_cases hid : r.job.id ∈ s.ids
    · left
      refine ⟨htaken.mpr hid, ?_⟩
      rw [submit_eq, hsubmit, Suite.register_of_mem hid hname, ← hsplit]
    · right
      refine ⟨mt htaken.mp hid, ⟨before ++ s.add r.job :: after⟩, ?_, ?_⟩
      · rw [submit_eq, hsubmit, Suite.register_of_notMem hid]
      · rw [hsplit]
        exact .toSuite before after hname hothers
  · right
    refine ⟨h.not_taken hmem, ⟨_⟩, ?_, .newSuite hmem⟩
    rw [submit_eq, submitTo_of_notMem hmem]

theorem register_of_refused {tool : Tool} {id : String} {input : TestInput} {fault : Fault}
    (h : c.submit ⟨tool, id, input⟩ = (c', some fault)) :
    c.register tool id input = .error fault := by
  rw [register, h]

theorem register_of_granted {tool : Tool} {id : String} {input : TestInput}
    (h : c.submit ⟨tool, id, input⟩ = (c', none)) : c.register tool id input = .ok c' := by
  rw [register, h]

/-- The suites after a job is added: its own has one more job, and the others are as before. -/
theorem Added.mem_cases (h : Added job ss ss') {t : Suite} (ht : t ∈ ss') :
    t ∈ ss ∧ t.name ≠ job.suite ∨
      (∃ s ∈ ss, s.name = job.suite ∧ t = s.add job) ∨
      job.suite ∉ ss.map Suite.name ∧ t = Suite.add { name := job.suite } job := by
  cases h with
  | @toSuite s before after hname hothers =>
    have hne : ∀ t ∈ before ++ after, t.name ≠ job.suite := fun t ht heq =>
      hothers (heq ▸ List.mem_map_of_mem ht)
    rcases List.mem_append.mp ht with ht | ht
    · exact .inl ⟨List.mem_append_left _ ht, hne t (List.mem_append_left _ ht)⟩
    · rcases List.mem_cons.mp ht with rfl | ht
      · exact .inr (.inl ⟨s, List.mem_append_right _ List.mem_cons_self, hname, rfl⟩)
      · exact .inl ⟨List.mem_append_right _ (List.mem_cons_of_mem _ ht),
          hne t (List.mem_append_right _ ht)⟩
  | newSuite habsent =>
    rcases List.mem_append.mp ht with ht | ht
    · exact .inl ⟨ht, fun heq => habsent (heq ▸ List.mem_map_of_mem ht)⟩
    · exact .inr (.inr ⟨habsent, List.mem_singleton.mp ht⟩)

/-- No suite is lost, and that of the job is there. -/
theorem Added.mem_names (h : Added job ss ss') {name : String}
    (hname : name ∈ ss.map Suite.name ∨ name = job.suite) : name ∈ ss'.map Suite.name := by
  cases h with
  | toSuite before after hs _ => simpa [hs, or_comm, or_left_comm] using hname
  | newSuite _ => simpa using hname

/-! ## What a catalog holds -/

/-- **The catalog holds these jobs**, added in this order: each suite has those that belong to it,
and every one of them belongs to a suite. -/
structure Holds (c : Catalog) (jobs : List Job) : Prop where
  wellFormed : c.WellFormed
  jobs_eq : ∀ s ∈ c.suites, s.jobs = jobs.filter fun job => job.suite = s.name
  suite_mem : ∀ job ∈ jobs, job.suite ∈ c.suites.map Suite.name

theorem holds_empty : empty.Holds [] where
  wellFormed := wellFormed_empty
  jobs_eq := by
    intro s hs
    obtain ⟨tool, -, rfl⟩ := List.mem_map.mp hs
    rfl
  suite_mem := fun _ hjob => absurd hjob List.not_mem_nil

theorem Holds.mem_allJobs_iff (h : c.Holds jobs) : job ∈ c.allJobs ↔ job ∈ jobs := by
  rw [allJobs, List.mem_flatMap]
  constructor
  · rintro ⟨s, hs, hjob⟩
    rw [h.jobs_eq s hs] at hjob
    exact List.mem_of_mem_filter hjob
  · intro hjob
    obtain ⟨s, hs, hname⟩ := List.mem_map.mp (h.suite_mem job hjob)
    refine ⟨s, hs, ?_⟩
    rw [h.jobs_eq s hs, List.mem_filter]
    exact ⟨hjob, by simp [hname]⟩

/-- The name of a job is taken if one of the jobs that the catalog holds has it. -/
theorem Holds.taken_iff (h : c.Holds jobs) :
    c.Taken job ↔ ∃ other ∈ jobs, other.suite = job.suite ∧ other.id = job.id := by
  simp only [Taken, h.mem_allJobs_iff]

theorem Holds.of_added (h : c.Holds jobs) (hc' : c'.WellFormed)
    (hadd : Added job c.suites c'.suites) : c'.Holds (jobs ++ [job]) where
  wellFormed := hc'
  jobs_eq := by
    intro t ht
    rw [List.filter_append]
    rcases hadd.mem_cases ht with ⟨ht, hne⟩ | ⟨s, hs, hname, rfl⟩ | ⟨habsent, rfl⟩
    · simp [h.jobs_eq t ht, Ne.symm hne]
    · simp [h.jobs_eq s hs, hname]
    · -- no job was of the suite that is new
      have hnone : (jobs.filter fun other => other.suite = job.suite) = [] := by
        rw [List.filter_eq_nil_iff]
        intro other hmem hsuite
        rw [decide_eq_true_eq] at hsuite
        exact habsent (hsuite ▸ h.suite_mem other hmem)
      rw [Suite.add_jobs, Suite.add_name, hnone]
      simp
  suite_mem := by
    intro other hother
    apply hadd.mem_names
    rcases List.mem_append.mp hother with hmem | hmem
    · exact .inl (h.suite_mem other hmem)
    · rw [List.mem_singleton.mp hmem]
      exact .inr rfl

/-- **What a catalog holds after one request**: a job more if it is granted, and the same if it is
refused. -/
theorem Holds.submit (h : c.Holds jobs) (r : Request) :
    (c.submit r).1.Holds (if (c.submit r).2 = none then jobs ++ [r.job] else jobs) := by
  have hwf := h.wellFormed.submit r
  rcases h.wellFormed.submit_cases r with ⟨-, hsubmit⟩ | ⟨-, c', hsubmit, hadd⟩
  · rw [hsubmit] at hwf ⊢
    exact h
  · rw [hsubmit] at hwf ⊢
    exact h.of_added hwf hadd

/-- The jobs of those requests that are granted, one after the other. -/
def granted (c : Catalog) : List Request → List Job
  | [] => []
  | r :: requests =>
    if (c.submit r).2 = none then r.job :: (c.submit r).1.granted requests
    else (c.submit r).1.granted requests

theorem Holds.foldl_submit (h : c.Holds jobs) (requests : List Request) :
    (requests.foldl (fun c r => (c.submit r).1) c).Holds (jobs ++ c.granted requests) := by
  induction requests generalizing c jobs with
  | nil => simpa [granted] using h
  | cons r requests ih =>
    have hstep := ih (h.submit r)
    rw [List.foldl_cons, granted]
    split_ifs at hstep ⊢
    · simpa using hstep
    · exact hstep

/-- **After any requests a catalog holds the jobs of those that were granted.** -/
theorem holds_afterRequests (requests : List Request) :
    (afterRequests requests).Holds (empty.granted requests) :=
  holds_empty.foldl_submit requests

/-! ## Nothing is lost -/

/-- The parts of a list by a key make up the list, if the keys are listed without repetition. -/
theorem perm_flatMap_filter {α : Type} {key : α → String} {names : List String}
    (hnodup : names.Nodup) {l : List α} (hmem : ∀ a ∈ l, key a ∈ names) :
    (names.flatMap fun name => l.filter fun a => key a = name).Perm l := by
  induction names generalizing l with
  | nil =>
    rw [List.eq_nil_iff_forall_not_mem.mpr fun a ha => List.not_mem_nil (hmem a ha)]
    exact .nil
  | cons name names ih =>
    rw [List.nodup_cons] at hnodup
    -- what has another key is made up of the parts by the other names
    let others := l.filter fun a => !decide (key a = name)
    have hothers :
        (names.flatMap fun name' => others.filter fun a => key a = name').Perm others := by
      apply ih hnodup.2
      intro a ha
      obtain ⟨hal, hne⟩ := List.mem_filter.mp ha
      exact (List.mem_cons.mp (hmem a hal)).resolve_left (by simpa using hne)
    have hparts : (names.flatMap fun name' => others.filter fun a => key a = name') =
        names.flatMap fun name' => l.filter fun a => key a = name' := by
      refine List.flatMap_congr fun name' hname' => ?_
      rw [List.filter_filter]
      refine List.filter_congr fun a _ => ?_
      by_cases ha : key a = name'
      · have hne : name' ≠ name := fun h => hnodup.1 (h ▸ hname')
        simp [ha, hne]
      · simp [ha]
    rw [List.flatMap_cons, ← hparts]
    exact (hothers.append_left _).trans (List.filter_append_perm _ l)

/-- **A catalog loses no job and has none twice.** -/
theorem Holds.perm_allJobs (h : c.Holds jobs) : c.allJobs.Perm jobs := by
  have hparts : c.allJobs =
      (c.suites.map Suite.name).flatMap fun name => jobs.filter fun job => job.suite = name := by
    rw [allJobs, List.flatMap_map]
    exact List.flatMap_congr h.jobs_eq
  rw [hparts]
  exact perm_flatMap_filter h.wellFormed.nodup_names h.suite_mem

theorem jobs_all (c : Catalog) : c.jobs .all = c.allJobs := by
  simp [jobs]

/-- **Requests are atomic and lose nothing.** After any requests, one more is refused exactly if a
job of the same suite and the same id is there; then the catalog is what it was, and otherwise just
that job is added. All jobs of the catalog are those that were granted, each once, suite by suite
and in a suite in the order of the requests. -/
theorem registration_atomic (requests : List Request) (tool : Tool) (id : String)
    (input : TestInput) :
    let c := afterRequests requests
    let job : Job := ⟨tool.suiteName, id, tool, input⟩
    let fault := Fault.duplicateTest tool.suiteName id input.path
    (c.register tool id input = .error fault ↔ c.Taken job) ∧
      (c.Taken job ∧ c.submit ⟨tool, id, input⟩ = (c, some fault) ∨
        ¬ c.Taken job ∧ ∃ c', c.register tool id input = .ok c' ∧
          c.submit ⟨tool, id, input⟩ = (c', none) ∧ Added job c.suites c'.suites) ∧
      (c.jobs .all = c.suites.flatMap Suite.jobs ∧
        (∀ s ∈ c.suites, s.jobs = (empty.granted requests).filter fun job => job.suite = s.name) ∧
        (c.jobs .all).Nodup ∧ (c.jobs .all).Perm (empty.granted requests) ∧
        c.size = (empty.granted requests).length) := by
  intro c job fault
  let r : Request := ⟨tool, id, input⟩
  have h : c.Holds (empty.granted requests) := holds_afterRequests requests
  have hall : c.jobs .all = c.allJobs := c.jobs_all
  refine ⟨?_, ?_, hall, h.jobs_eq, ?_, ?_, h.perm_allJobs.length_eq⟩
  · rcases h.wellFormed.submit_cases r with ⟨htaken, hsubmit⟩ | ⟨hfree, c', hsubmit, -⟩
    · exact iff_of_true (register_of_refused hsubmit) htaken
    · exact iff_of_false (by rw [register_of_granted hsubmit]; nofun) hfree
  · rcases h.wellFormed.submit_cases r with ⟨htaken, hsubmit⟩ | ⟨hfree, c', hsubmit, hadd⟩
    · exact .inl ⟨htaken, hsubmit⟩
    · exact .inr ⟨hfree, c', register_of_granted hsubmit, hsubmit, hadd⟩
  · rw [hall]
    exact h.wellFormed.nodup_keys.of_map _
  · rw [hall]
    exact h.perm_allJobs

end Catalog

end Conformance
