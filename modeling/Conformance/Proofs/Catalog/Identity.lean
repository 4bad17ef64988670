import Conformance.Catalog
import Conformance.Proofs.Text.Lines
import Mathlib.Data.List.Nodup

/-!
# The identity of jobs

In a catalog that is filled by requests a job is known by its key. Suites have different names,
the jobs of a suite have different ids, which are just those that the suite holds to be taken, and
the suite that is stored in a job is the one that has it and the one of its tool. No tool has a suite
with a dot in its name, so that a key says where the suite ends and the id begins.

## Main definitions

* `Request.job`: the job that a request adds
* `Suite.WellFormed`, `Catalog.WellFormed`: what holds of suites and catalogs
* `Catalog.afterRequests`: the catalog after some requests to add a job

## Main results

* `Job.key_inj`: a key tells the suite and the id, if the suite has no dot
* `Suite.WellFormed.register`, `Catalog.WellFormed.submit`: a request keeps a catalog well formed,
  whether it is granted or refused
* `Catalog.WellFormed.nodup_keys`: the keys of a well-formed catalog are distinct
* `Catalog.identities_distinct`: so it is after any requests
-/

namespace Conformance

/-! ## Keys -/

theorem Variant.dot_notMem_suiteName (v : Variant) : '.' ∉ v.suiteName.toList := by
  simp only [suiteName, String.toList_append, List.mem_append, not_or]
  refine ⟨⟨⟨⟨by decide, ?_⟩, ?_⟩, ?_⟩, ?_⟩
  -- one word for every axis
  all_goals
    split
    all_goals decide

/-- No name of a suite has a dot in it, not even that of a variant that is not registered. -/
theorem Tool.dot_notMem_suiteName (tool : Tool) : '.' ∉ tool.suiteName.toList := by
  cases tool with
  | checker v => exact v.dot_notMem_suiteName
  | _ =>
    rw [suiteName]
    decide

/-- **A key tells the suite and the id**: the suite ends at the first dot, and any more belong to the
id. -/
theorem Job.key_inj {job other : Job} (hjob : '.' ∉ job.suite.toList)
    (hother : '.' ∉ other.suite.toList) :
    job.key = other.key ↔ job.suite = other.suite ∧ job.id = other.id := by
  constructor
  · intro h
    have hdot : ".".toList = ['.'] := by decide
    have hkey : job.suite.toList ++ '.' :: job.id.toList =
        other.suite.toList ++ '.' :: other.id.toList := by
      simpa [Job.key, hdot] using congrArg String.toList h
    have hpieces := congrArg (Text.splitAt '.') hkey
    rw [Text.splitAt_append hjob, Text.splitAt_append hother, List.cons.injEq] at hpieces
    have hsuite : job.suite = other.suite := String.toList_inj.mp hpieces.1
    rw [hsuite, List.append_cancel_left_eq, List.cons.injEq] at hkey
    exact ⟨hsuite, String.toList_inj.mp hkey.2⟩
  · rintro ⟨hsuite, hid⟩
    rw [Job.key, Job.key, hsuite, hid]

/-! ## Suites -/

namespace Suite

/-- **A well-formed suite**: its ids are those of its jobs, no two of them have the same id, and all
of them belong to it, by the suite that is stored in them and by their tools. -/
structure WellFormed (s : Suite) : Prop where
  mem_ids : ∀ id, id ∈ s.ids ↔ id ∈ s.jobs.map Job.id
  nodup_ids : (s.jobs.map Job.id).Nodup
  suite_eq : ∀ job ∈ s.jobs, job.suite = s.name
  suiteName_eq : ∀ job ∈ s.jobs, job.tool.suiteName = s.name

variable {s : Suite} {job : Job}

theorem wellFormed_of_no_jobs (name : String) : WellFormed { name } where
  mem_ids := by simp
  nodup_ids := List.nodup_nil
  suite_eq := fun _ hjob => absurd hjob List.not_mem_nil
  suiteName_eq := fun _ hjob => absurd hjob List.not_mem_nil

/-- The suite of a job has no dot in its name, since it is that of the tool. -/
theorem WellFormed.dot_notMem_suite (h : s.WellFormed) (hjob : job ∈ s.jobs) :
    '.' ∉ job.suite.toList := by
  rw [h.suite_eq job hjob, ← h.suiteName_eq job hjob]
  exact job.tool.dot_notMem_suiteName

@[simp] theorem register_name (s : Suite) (job : Job) : (s.register job).1.name = s.name := by
  unfold register
  split <;> rfl

/-- A job that belongs to the suite leaves it well formed, whether it is added or refused. -/
theorem WellFormed.register (h : s.WellFormed) (hjob : job.suite = s.name)
    (htool : job.tool.suiteName = s.name) : (s.register job).1.WellFormed := by
  unfold Suite.register
  split
  · exact h
  · next hid =>
    -- an id that is not taken is the id of none of the jobs
    have hfresh : job.id ∉ s.jobs.map Job.id := fun hmem => hid ((h.mem_ids _).mpr hmem)
    constructor
    · intro id
      rw [List.map_append, List.map_singleton, List.mem_cons, List.mem_append, List.mem_singleton,
        h.mem_ids, or_comm]
    · rw [List.map_append, List.map_singleton, ← List.concat_eq_append]
      exact h.nodup_ids.concat hfresh
    · intro other hother
      rcases List.mem_append.mp hother with hmem | hmem
      · exact h.suite_eq other hmem
      · rw [List.mem_singleton.mp hmem, hjob]
    · intro other hother
      rcases List.mem_append.mp hother with hmem | hmem
      · exact h.suiteName_eq other hmem
      · rw [List.mem_singleton.mp hmem, htool]

end Suite

/-! ## Catalogs -/

/-- The job that a request adds if it is granted. -/
def Request.job (r : Request) : Job :=
  ⟨r.tool.suiteName, r.id, r.tool, r.input⟩

namespace Catalog

variable {c : Catalog} {ss : List Suite} {s : Suite} {name : String} {job : Job}

theorem submitTo_nil (name : String) (job : Job) :
    (submitTo name job []).1 = [(Suite.register { name } job).1] := rfl

theorem submitTo_cons (name : String) (job : Job) (s : Suite) (ss : List Suite) :
    (submitTo name job (s :: ss)).1 =
      if s.name = name then (s.register job).1 :: ss else s :: (submitTo name job ss).1 := by
  rw [submitTo]
  split <;> rfl

/-- A request adds the name of its suite, unless there is such a suite. -/
theorem map_name_submitTo (name : String) (job : Job) (ss : List Suite) :
    (submitTo name job ss).1.map Suite.name =
      if name ∈ ss.map Suite.name then ss.map Suite.name else ss.map Suite.name ++ [name] := by
  induction ss with
  | nil => simp [submitTo_nil]
  | cons s ss ih =>
    rw [submitTo_cons]
    by_cases h : s.name = name
    · -- the suite is found, and its name stays
      simp [h]
    · rw [if_neg h, List.map_cons, ih]
      by_cases hmem : name ∈ ss.map Suite.name
      · simp [hmem]
      · simp [hmem, Ne.symm h]

theorem wellFormed_of_mem_submitTo (hjob : job.suite = name) (htool : job.tool.suiteName = name)
    (h : ∀ s ∈ ss, s.WellFormed) : ∀ s ∈ (submitTo name job ss).1, s.WellFormed := by
  induction ss with
  | nil =>
    rw [submitTo_nil, List.forall_mem_singleton]
    exact (Suite.wellFormed_of_no_jobs name).register hjob htool
  | cons s ss ih =>
    rw [List.forall_mem_cons] at h
    rw [submitTo_cons]
    split
    · next hname =>
      subst hname
      exact List.forall_mem_cons.mpr ⟨h.1.register hjob htool, h.2⟩
    · exact List.forall_mem_cons.mpr ⟨h.1, ih h.2⟩

/-- What is left of a catalog by a request: its suite is looked up by the name that the job
stores. -/
theorem submit_eq (c : Catalog) (r : Request) :
    c.submit r =
      (⟨(submitTo r.job.suite r.job c.suites).1⟩, (submitTo r.job.suite r.job c.suites).2) := rfl

/-- **A well-formed catalog**: its suites are, and they have different names. -/
structure WellFormed (c : Catalog) : Prop where
  nodup_names : (c.suites.map Suite.name).Nodup
  suites : ∀ s ∈ c.suites, s.WellFormed

theorem wellFormed_empty : empty.WellFormed where
  nodup_names := by
    simp [empty, Tool.models, Variant.registered, Tool.suiteName, Variant.suiteName, Variant.isXml]
  suites := by
    intro s hs
    obtain ⟨tool, -, rfl⟩ := List.mem_map.mp hs
    exact Suite.wellFormed_of_no_jobs tool.suiteName

/-- **A request keeps a catalog well formed**, whether it is granted or refused. -/
theorem WellFormed.submit (h : c.WellFormed) (r : Request) : (c.submit r).1.WellFormed where
  nodup_names := by
    rw [submit_eq, map_name_submitTo]
    split
    · exact h.nodup_names
    · next hnew =>
      rw [← List.concat_eq_append]
      exact h.nodup_names.concat hnew
  -- what is stored as the suite of the job is both the name looked up and that of the tool
  suites := wellFormed_of_mem_submitTo rfl rfl h.suites

/-- The catalog after some requests to add a job, granted or refused, beginning with the catalog
without jobs. -/
def afterRequests (requests : List Request) : Catalog :=
  requests.foldl (fun c r => (c.submit r).1) empty

theorem wellFormed_afterRequests (requests : List Request) : (afterRequests requests).WellFormed :=
  List.foldlRecOn requests _ wellFormed_empty fun _ h r _ => h.submit r

/-- The suite that is stored in a job is the one of its tool. -/
theorem WellFormed.suite_eq_suiteName (h : c.WellFormed) (hjob : job ∈ c.allJobs) :
    job.suite = job.tool.suiteName := by
  obtain ⟨s, hs, hmem⟩ := List.mem_flatMap.mp hjob
  rw [(h.suites s hs).suite_eq job hmem, (h.suites s hs).suiteName_eq job hmem]

/-- **The keys of a well-formed catalog are distinct.** -/
theorem WellFormed.nodup_keys (h : c.WellFormed) : (c.allJobs.map Job.key).Nodup := by
  rw [allJobs, List.map_flatMap, List.nodup_flatMap]
  constructor
  · -- within a suite, the keys differ by their ids
    intro s hs
    have hwf := h.suites s hs
    have hids := hwf.nodup_ids
    rw [List.Nodup, List.pairwise_map] at hids ⊢
    refine hids.imp_of_mem fun {job other} hjob hother hne hkey => hne ?_
    exact ((Job.key_inj (hwf.dot_notMem_suite hjob) (hwf.dot_notMem_suite hother)).mp hkey).2
  · -- from one suite to another, they differ by the names of the suites
    have hnames := h.nodup_names
    rw [List.Nodup, List.pairwise_map] at hnames
    refine hnames.imp_of_mem fun {s t} hs ht hne => ?_
    apply List.disjoint_left.mpr
    intro key hkey hkey'
    -- a common key belongs to a job of either suite, and names only one of them
    obtain ⟨job, hjob, rfl⟩ := List.mem_map.mp hkey
    obtain ⟨other, hother, hsame⟩ := List.mem_map.mp hkey'
    have hkeys := Job.key_inj ((h.suites t ht).dot_notMem_suite hother)
      ((h.suites s hs).dot_notMem_suite hjob)
    have hsuite := (hkeys.mp hsame).1
    rw [(h.suites s hs).suite_eq job hjob, (h.suites t ht).suite_eq other hother] at hsuite
    exact hne hsuite.symm

/-- **Every job of a catalog has an identity of its own**, after any requests to add jobs of any
tools, granted or refused. The suite that it stores is the one that has it and the one of its
tool. -/
theorem identities_distinct (requests : List Request) :
    ((afterRequests requests).suites.map Suite.name).Nodup ∧
      (∀ s ∈ (afterRequests requests).suites,
        (∀ id, id ∈ s.ids ↔ ∃ job ∈ s.jobs, job.id = id) ∧
        (s.jobs.map Job.id).Nodup ∧
        ∀ job ∈ s.jobs, job.suite = s.name ∧ job.suite = job.tool.suiteName) ∧
      ((afterRequests requests).allJobs.map Job.key).Nodup := by
  have h := wellFormed_afterRequests requests
  refine ⟨h.nodup_names, fun s hs => ?_, h.nodup_keys⟩
  have hsuite := h.suites s hs
  refine ⟨fun id => ?_, hsuite.nodup_ids, fun job hjob => ⟨hsuite.suite_eq job hjob, ?_⟩⟩
  · rw [hsuite.mem_ids, List.mem_map]
  · rw [hsuite.suite_eq job hjob, hsuite.suiteName_eq job hjob]

end Catalog

end Conformance
