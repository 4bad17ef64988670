import Conformance.Proofs.Catalog.Registration

/-!
# The jobs of every tool

A catalog to which only jobs of registered tools are added keeps the suites that it has from the
start. What it holds is then a list of jobs for every registered tool, and a model adds one job to
the list of every tool that models are run through, or none to any.

## Main definitions

* `Tool.registered`: the tools that have a suite from the start
* `Catalog.Shelves`: the jobs of a catalog, by their tools

## Main results

* `Catalog.Shelves.submit_of_free`, `Catalog.Shelves.submit_of_taken`: what a request does
* `Catalog.Shelves.registerModel_of_free`, `Catalog.Shelves.registerModel_of_taken`: what a model
  does
-/

namespace Conformance

/-- The tools that have a suite from the start, in the order of their suites. -/
def Tool.registered : List Tool :=
  executable :: models

theorem Tool.executable_mem_registered : executable ∈ registered := List.mem_cons_self

theorem Tool.mem_registered_of_mem_models {tool : Tool} (h : tool ∈ models) : tool ∈ registered :=
  List.mem_cons_of_mem _ h

theorem Tool.ne_executable {tool : Tool} (h : tool ∈ models) : tool ≠ executable := by
  rintro rfl
  exact absurd h (by decide)

theorem Tool.nodup_models : models.Nodup := by decide

/-- Registered tools are told apart by the names of their suites. -/
theorem Tool.suiteName_inj {tool other : Tool} (h : tool ∈ registered) (h' : other ∈ registered) :
    tool.suiteName = other.suiteName ↔ tool = other := by
  have hnodup : (registered.map suiteName).Nodup := by
    have hnames := Catalog.wellFormed_empty.nodup_names
    rwa [Catalog.empty, List.map_map] at hnames
  exact ⟨fun heq => List.inj_on_of_nodup_map hnodup h h' heq, congrArg suiteName⟩

namespace Catalog

variable {c c' : Catalog} {r : Request} {job : Job} {f g : Tool → List Job} {id : String}

/-- **The catalog has these jobs, by their tools**: its suites are those of the registered tools, in
their order. -/
structure Shelves (c : Catalog) (f : Tool → List Job) : Prop where
  wellFormed : c.WellFormed
  suites_eq : (c.suites.map fun s => (s.name, s.jobs)) =
    Tool.registered.map fun tool => (tool.suiteName, f tool)

theorem shelves_empty : empty.Shelves fun _ => [] where
  wellFormed := wellFormed_empty
  suites_eq := List.map_map

theorem Shelves.congr (h : c.Shelves f) (hfg : ∀ tool ∈ Tool.registered, f tool = g tool) :
    c.Shelves g where
  wellFormed := h.wellFormed
  suites_eq := by
    rw [h.suites_eq]
    exact List.map_congr_left fun tool htool => by rw [hfg tool htool]

/-- The suite of a registered tool. -/
theorem Shelves.exists_suite (h : c.Shelves f) {tool : Tool} (htool : tool ∈ Tool.registered) :
    ∃ s ∈ c.suites, s.name = tool.suiteName ∧ s.jobs = f tool := by
  have hmem : (tool.suiteName, f tool) ∈ c.suites.map fun s => (s.name, s.jobs) := by
    rw [h.suites_eq]
    exact List.mem_map_of_mem htool
  obtain ⟨s, hs, heq⟩ := List.mem_map.mp hmem
  exact ⟨s, hs, (Prod.mk.injEq ..).mp heq⟩

theorem Shelves.taken_iff (h : c.Shelves f) (htool : r.tool ∈ Tool.registered) :
    c.Taken r.job ↔ r.id ∈ (f r.tool).map Job.id := by
  obtain ⟨s, hs, hname, hjobs⟩ := h.exists_suite htool
  rw [h.wellFormed.taken_iff hs hname, (h.wellFormed.suites s hs).mem_ids, hjobs, Request.job]

/-- A job of a suite that is there already comes last among its jobs. -/
theorem Added.map_jobs {ss ss' : List Suite} (h : Added job ss ss')
    (hmem : job.suite ∈ ss.map Suite.name) :
    (ss'.map fun s => (s.name, s.jobs)) = (ss.map fun s => (s.name, s.jobs)).map fun p =>
      (p.1, if p.1 = job.suite then p.2 ++ [job] else p.2) := by
  cases h with
  | @toSuite s before after hname hothers =>
    rw [List.map_append, List.mem_append, not_or] at hothers
    have hrest (ts : List Suite) (hts : job.suite ∉ ts.map Suite.name) :
        (ts.map fun s => (s.name, s.jobs)) = (ts.map fun s => (s.name, s.jobs)).map fun p =>
          (p.1, if p.1 = job.suite then p.2 ++ [job] else p.2) := by
      rw [List.map_map]
      refine List.map_congr_left fun t ht => ?_
      have hne : t.name ≠ job.suite := fun heq => hts (heq ▸ List.mem_map_of_mem ht)
      simp [hne]
    simp only [List.map_append, List.map_cons, ← hrest before hothers.1, ← hrest after hothers.2]
    simp [hname]
  | newSuite habsent => exact absurd hmem habsent

theorem Shelves.of_added (h : c.Shelves f) (hc' : c'.WellFormed)
    (htool : r.tool ∈ Tool.registered) (hadd : Added r.job c.suites c'.suites) :
    c'.Shelves fun tool => if tool = r.tool then f tool ++ [r.job] else f tool where
  wellFormed := hc'
  suites_eq := by
    obtain ⟨s, hs, hname, -⟩ := h.exists_suite htool
    have hmem : r.job.suite ∈ c.suites.map Suite.name := List.mem_map.mpr ⟨s, hs, hname⟩
    rw [hadd.map_jobs hmem, h.suites_eq, List.map_map]
    refine List.map_congr_left fun tool ht => ?_
    simp only [Function.comp, Request.job, Tool.suiteName_inj ht htool]

/-- A request for a name that is taken is refused. -/
theorem Shelves.submit_of_taken (h : c.Shelves f) (r : Request)
    (htool : r.tool ∈ Tool.registered)
    (htaken : r.id ∈ (f r.tool).map Job.id) : c.submit r = (c, some r.job.duplicate) := by
  rcases h.wellFormed.submit_cases r with ⟨-, hsubmit⟩ | ⟨hfree, -⟩
  · exact hsubmit
  · exact absurd ((h.taken_iff htool).mpr htaken) hfree

/-- A request for a name that is free is granted, and the job comes last among those of its tool. -/
theorem Shelves.submit_of_free (h : c.Shelves f) (r : Request)
    (htool : r.tool ∈ Tool.registered)
    (hfree : r.id ∉ (f r.tool).map Job.id) :
    ∃ c', c.submit r = (c', none) ∧
      c'.Shelves fun tool => if tool = r.tool then f tool ++ [r.job] else f tool := by
  have hwf := h.wellFormed.submit r
  rcases h.wellFormed.submit_cases r with ⟨htaken, -⟩ | ⟨-, c', hsubmit, hadd⟩
  · exact absurd ((h.taken_iff htool).mp htaken) hfree
  · rw [hsubmit] at hwf
    exact ⟨c', hsubmit, h.of_added hwf htool hadd⟩

/-- A name that is free for each of some registered tools is granted for all of them. -/
theorem Shelves.registerEach_of_free (h : c.Shelves f) (input : TestInput) {tools : List Tool}
    (hreg : ∀ tool ∈ tools, tool ∈ Tool.registered) (hnodup : tools.Nodup)
    (hfree : ∀ tool ∈ tools, id ∉ (f tool).map Job.id) :
    ∃ c', c.registerEach id input tools = (c', none) ∧
      c'.Shelves fun tool =>
        if tool ∈ tools then f tool ++ [Request.job ⟨tool, id, input⟩] else f tool := by
  induction tools generalizing c f with
  | nil => exact ⟨c, rfl, by simpa using h⟩
  | cons tool tools ih =>
    rw [List.forall_mem_cons] at hreg hfree
    rw [List.nodup_cons] at hnodup
    obtain ⟨c₁, hsubmit, h₁⟩ := h.submit_of_free ⟨tool, id, input⟩ hreg.1 hfree.1
    have hne : ∀ other ∈ tools, other ≠ tool := fun other hother heq => hnodup.1 (heq ▸ hother)
    obtain ⟨c', hrest, h'⟩ := ih h₁ hreg.2 hnodup.2 fun other hother => by
      rw [if_neg (hne other hother)]
      exact hfree.2 other hother
    refine ⟨c', by rw [registerEach, hsubmit]; exact hrest, h'.congr fun other _ => ?_⟩
    by_cases heq : other = tool
    · subst heq
      simp [hnodup.1]
    · simp [heq]

/-- A model of a free name adds a job for every tool that models are run through. -/
theorem Shelves.registerModel_of_free (h : c.Shelves f) (input : TestInput)
    (hfree : ∀ tool ∈ Tool.models, id ∉ (f tool).map Job.id) :
    ∃ c', c.registerModel id input = (c', none) ∧
      c'.Shelves fun tool =>
        if tool ∈ Tool.models then f tool ++ [Request.job ⟨tool, id, input⟩] else f tool :=
  h.registerEach_of_free input (fun _ => Tool.mem_registered_of_mem_models) Tool.nodup_models hfree

/-- A model of a name that is taken adds nothing. The complaint is that of the first tool. -/
theorem Shelves.registerModel_of_taken (h : c.Shelves f) (input : TestInput)
    (htaken : ∀ tool ∈ Tool.models, id ∈ (f tool).map Job.id) :
    c.registerModel id input =
      (c, some (.duplicateTest "checker_single_threaded" id input.path)) := by
  obtain ⟨first, rest, hmodels, hname⟩ : ∃ first rest, Tool.models = first :: rest ∧
      first.suiteName = "checker_single_threaded" := ⟨_, _, rfl, by decide⟩
  have hfirst : first ∈ Tool.models := hmodels ▸ List.mem_cons_self
  have hsubmit := h.submit_of_taken ⟨first, id, input⟩
    (Tool.mem_registered_of_mem_models hfirst) (htaken first hfirst)
  simp only [registerModel, hmodels, registerEach, hsubmit, Job.duplicate, Request.job, hname]

end Catalog

end Conformance
