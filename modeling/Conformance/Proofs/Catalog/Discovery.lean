import Conformance.Proofs.Catalog.Entries
import Conformance.Proofs.Catalog.Shelves
import Conformance.Proofs.Text.ByteOrder
import Mathlib.Data.List.Forall2
import Mathlib.Data.List.Sort

/-!
# The catalog of a directory

The entries of a directory are looked at one after the other, in the order of the bytes of their
names. As long as nothing is wrong, the catalog has one job for every program, and for every model
one job for each tool that models are run through. The first entry with which something is wrong
ends the search, whatever comes behind it.

## Main definitions

* `TestInput.job`: the job of an input and a tool, under the name of the input
* `Catalog.Collects`: what the catalog of some entries is

## Main results

* `Catalog.Collects.addEntry`: one entry is added, or something is wrong with it
* `Catalog.Collects.addEntries`: some entries are added, or something is wrong with one of them
* `Catalog.discovery_exact`: when a directory has a catalog, which it is, and what the fault is if
  it has none
-/

namespace Conformance

/-- The job of an input and a tool. -/
def TestInput.job (input : TestInput) (tool : Tool) : Job :=
  ⟨tool.suiteName, testName input.path, tool, input⟩

/-- The request for the job of a test program. -/
def DirEntry.programRequest (root : Path) (e : DirEntry) : Request :=
  ⟨.executable, e.testId root, .executable (e.path root)⟩

/-- The job of a test program. -/
def DirEntry.programJob (root : Path) (e : DirEntry) : Job :=
  (TestInput.executable (e.path root)).job .executable

open DirEntry

namespace Catalog

/-- The jobs of some entries by their tools, if the models among them are read as these inputs. -/
def jobsOf (root : Path) (entries : List DirEntry) (inputs : List TestInput) (tool : Tool) :
    List Job :=
  if tool = .executable then (entries.filter isProgram).map (programJob root)
  else inputs.map fun input => input.job tool

/-- **The catalog of some entries**, which are acceptable. All tools have the same inputs, one for
every model. -/
structure Collects (c : Catalog) (root : Path) (entries : List DirEntry) : Prop where
  acceptable : Acceptable root entries
  exists_inputs : ∃ inputs, List.Forall₂ (Reads root) (entries.filter (isModel root)) inputs ∧
    c.Shelves (jobsOf root entries inputs)

variable {c : Catalog} {root : Path} {entries seen : List DirEntry} {e : DirEntry}
  {inputs : List TestInput} {input : TestInput}

/-! ## The names that are taken

A name is taken among programs if it is that of an earlier program, and among models if it is that
of an earlier model, whichever of the tools is asked. -/

theorem map_id_programs :
    (jobsOf root entries inputs .executable).map Job.id =
      (entries.filter isProgram).map (testId root) := by
  rw [jobsOf, if_pos rfl, List.map_map]
  rfl

theorem testName_of_reads {models : List DirEntry} (h : List.Forall₂ (Reads root) models inputs) :
    (inputs.map fun input => testName input.path) = models.map (testId root) := by
  induction h with
  | nil => rfl
  | cons hreads _ ih => rw [List.map_cons, List.map_cons, ih, hreads.path_eq, testId]

theorem map_id_models (h : List.Forall₂ (Reads root) (seen.filter (isModel root)) inputs)
    {tool : Tool} (htool : tool ∈ Tool.models) :
    (jobsOf root entries inputs tool).map Job.id =
      (seen.filter (isModel root)).map (testId root) := by
  rw [jobsOf, if_neg (Tool.ne_executable htool), List.map_map, ← testName_of_reads h]
  rfl

/-! ## Programs -/

theorem addProgram_of_isProgram (h : e.isProgram) :
    c.addProgram (e.path root) e.2 =
      c.register .executable (e.testId root) (.executable (e.path root)) :=
  if_pos h

theorem addProgram_of_not_isProgram (h : ¬ e.isProgram) : c.addProgram (e.path root) e.2 = .ok c :=
  if_neg h

theorem addProgram_of_collides (h : c.Shelves (jobsOf root seen inputs))
    (hc : Collides root isProgram seen e) :
    c.addProgram (e.path root) e.2 =
      .error (.duplicateTest "executable" (e.testId root) (e.path root)) := by
  have htaken : e.testId root ∈ (jobsOf root seen inputs .executable).map Job.id := by
    rw [map_id_programs]
    exact hc.2
  rw [addProgram_of_isProgram hc.1]
  exact register_of_refused
    (h.submit_of_taken (programRequest root e) Tool.executable_mem_registered htaken)

theorem addProgram_of_not_collides (h : c.Shelves (jobsOf root seen inputs))
    (hc : ¬ Collides root isProgram seen e) :
    ∃ c', c.addProgram (e.path root) e.2 = .ok c' ∧
      c'.Shelves (jobsOf root (seen ++ [e]) inputs) := by
  by_cases hprogram : e.isProgram
  · have hfree : e.testId root ∉ (jobsOf root seen inputs .executable).map Job.id := by
      rw [map_id_programs]
      exact fun hmem => hc ⟨hprogram, hmem⟩
    obtain ⟨c', hsubmit, h'⟩ :=
      h.submit_of_free (programRequest root e) Tool.executable_mem_registered hfree
    refine ⟨c', ?_, h'.congr fun tool _ => ?_⟩
    · rw [addProgram_of_isProgram hprogram]
      exact register_of_granted hsubmit
    · by_cases htool : tool = .executable
      · simp [jobsOf, htool, programRequest, Request.job, programJob, TestInput.job,
          TestInput.executable, testId, hprogram]
      · simp [jobsOf, htool, programRequest]
  · refine ⟨c, addProgram_of_not_isProgram hprogram, h.congr fun tool _ => ?_⟩
    simp [jobsOf, hprogram]

/-! ## Models -/

variable {name : String} {content : Bytes} {mode : Nat} {fault : Fault}

theorem isModel_file_iff :
    isModel root (name, .file content mode) ↔
      Path.extension? (Path.join root name) = some modelExtension := by
  simp [isModel, path]

theorem addModel_of_not_isModel (hmodel : ¬ isModel root (name, .file content mode)) :
    c.addModel (Path.join root name) content mode = .ok c := by
  rw [addModel, if_neg (mt isModel_file_iff.mpr hmodel)]

theorem addModel_of_unread (hmodel : isModel root (name, .file content mode))
    (hload : TestInput.load (Path.join root name) content mode = .error fault) :
    c.addModel (Path.join root name) content mode = .error fault := by
  rw [addModel, if_pos (isModel_file_iff.mp hmodel), hload]

theorem addModel_of_collides (h : c.Shelves (jobsOf root entries inputs))
    (hinputs : List.Forall₂ (Reads root) (seen.filter (isModel root)) inputs)
    (hreads : Reads root (name, .file content mode) input)
    (hc : Collides root (isModel root) seen (name, .file content mode)) :
    c.addModel (Path.join root name) content mode =
      .error (.duplicateTest "checker_single_threaded" (testName (Path.join root name))
        (Path.join root name)) := by
  have htaken : ∀ tool ∈ Tool.models,
      testName (Path.join root name) ∈ (jobsOf root entries inputs tool).map Job.id := by
    intro tool htool
    rw [map_id_models hinputs htool]
    exact hc.2
  rw [addModel, if_pos (isModel_file_iff.mp hc.1), TestInput.load_of_reads hreads]
  simp only [h.registerModel_of_taken input htaken, hreads.path_eq, path]

theorem addModel_of_not_collides (h : c.Shelves (jobsOf root entries inputs))
    (hinputs : List.Forall₂ (Reads root) (seen.filter (isModel root)) inputs)
    (hmodel : isModel root (name, .file content mode))
    (hreads : Reads root (name, .file content mode) input)
    (hc : ¬ Collides root (isModel root) seen (name, .file content mode)) :
    ∃ c', c.addModel (Path.join root name) content mode = .ok c' ∧
      c'.Shelves (jobsOf root entries (inputs ++ [input])) := by
  have hfree : ∀ tool ∈ Tool.models,
      testName (Path.join root name) ∉ (jobsOf root entries inputs tool).map Job.id := by
    intro tool htool
    rw [map_id_models hinputs htool]
    exact fun hmem => hc ⟨hmodel, hmem⟩
  obtain ⟨c', hregister, h'⟩ := h.registerModel_of_free input hfree
  refine ⟨c', ?_, h'.congr fun tool htool => ?_⟩
  · rw [addModel, if_pos (isModel_file_iff.mp hmodel), TestInput.load_of_reads hreads]
    simp only [hregister]
  · rcases List.mem_cons.mp htool with rfl | hmodels
    · rw [if_neg fun hmem => Tool.ne_executable hmem rfl]
      rfl
    · simp [jobsOf, hmodels, Tool.ne_executable hmodels, Request.job, TestInput.job,
        hreads.path_eq, path]

/-- **What a model does**, behind its role as a program: the catalog has its jobs as well, or
something is wrong with it. -/
theorem addModel_cases (hacc : Acceptable root seen)
    (hinputs : List.Forall₂ (Reads root) (seen.filter (isModel root)) inputs)
    (h : c.Shelves (jobsOf root (seen ++ [(name, .file content mode)]) inputs))
    (hc : ¬ Collides root isProgram seen (name, .file content mode)) :
    (∃ c', c.addModel (Path.join root name) content mode = .ok c' ∧
        c'.Collects root (seen ++ [(name, .file content mode)])) ∨
      ∃ fault, c.addModel (Path.join root name) content mode = .error fault ∧
        Offends root seen (name, .file content mode) fault := by
  by_cases hmodel : isModel root (name, .file content mode)
  · -- the conditions are checked in the order of the constructors of `Offends`
    rcases reads_cases root name content mode with hdenied | ⟨hmode, err, hwrong⟩ | ⟨input, hreads⟩
    · right
      exact ⟨_, addModel_of_unread hmodel (TestInput.load_of_denied hdenied),
        .unreadable hc hmodel hdenied⟩
    · right
      exact ⟨_, addModel_of_unread hmodel (TestInput.load_of_wrong hmode hwrong),
        .directive hc hmodel hmode hwrong⟩
    · by_cases hc' : Collides root (isModel root) seen (name, .file content mode)
      · right
        exact ⟨_, addModel_of_collides h hinputs hreads hc', .model hc hreads hc'⟩
      · left
        obtain ⟨c', hadd, h'⟩ := addModel_of_not_collides h hinputs hmodel hreads hc'
        refine ⟨c', hadd, hacc.concat hc (fun _ => ⟨input, hreads⟩) hc', _, ?_, h'⟩
        rw [List.filter_append, List.filter_singleton, hmodel]
        exact List.rel_append hinputs (.cons hreads .nil)
  · left
    refine ⟨c, addModel_of_not_isModel hmodel, hacc.concat hc ?_ ?_, inputs, ?_, h⟩
    · exact fun h => absurd h hmodel
    · exact fun h => hmodel h.1
    · simpa [hmodel] using hinputs

/-! ## One entry -/

theorem addEntry_of_error
    (h : c.addProgram (Path.join root name) (.file content mode) = .error fault) :
    c.addEntry root (name, .file content mode) = .error fault := by
  rw [addEntry, h]

theorem addEntry_of_ok {c' : Catalog}
    (h : c.addProgram (Path.join root name) (.file content mode) = .ok c') :
    c.addEntry root (name, .file content mode) =
      c'.addModel (Path.join root name) content mode := by
  rw [addEntry, h]

/-- **What one more entry does**: the catalog has its jobs as well, or something is wrong with
it. -/
theorem Collects.addEntry (h : c.Collects root seen) (e : DirEntry) :
    (∃ c', c.addEntry root e = .ok c' ∧ c'.Collects root (seen ++ [e])) ∨
      ∃ fault, c.addEntry root e = .error fault ∧ Offends root seen e fault := by
  obtain ⟨hacc, inputs, hinputs, hshelves⟩ := h
  rcases e with ⟨name, _ | ⟨content, mode⟩⟩
  · -- a directory has no role
    left
    refine ⟨c, rfl, hacc.concat ?_ ?_ ?_, inputs, ?_, hshelves.congr fun tool _ => ?_⟩
    · simp [Collides, isProgram, Node.isExecutable]
    · simp [isModel]
    · simp [Collides, isModel]
    · simpa [isModel] using hinputs
    · simp [jobsOf, isProgram, Node.isExecutable]
  · by_cases hc : Collides root isProgram seen (name, .file content mode)
    · right
      exact ⟨_, addEntry_of_error (addProgram_of_collides hshelves hc), .program hc⟩
    · obtain ⟨c₁, hprogram, h₁⟩ := addProgram_of_not_collides hshelves hc
      rw [addEntry_of_ok hprogram]
      exact addModel_cases hacc hinputs h₁ hc

/-! ## All entries -/

theorem collects_empty (root : Path) : empty.Collects root [] where
  acceptable := acceptable_nil
  exists_inputs := by
    refine ⟨[], .nil, shelves_empty.congr fun tool _ => ?_⟩
    simp [jobsOf]

/-- **What any more entries do**: the catalog has the jobs of all of them as well, or one of them is
the first with which something is wrong. -/
theorem Collects.addEntries (h : c.Collects root seen) (entries : List DirEntry) :
    (∃ c', addEntries root c entries = .ok c' ∧ c'.Collects root (seen ++ entries)) ∨
      ∃ earlier e later fault, entries = earlier ++ e :: later ∧
        addEntries root c entries = .error fault ∧ Acceptable root (seen ++ earlier) ∧
        Offends root (seen ++ earlier) e fault := by
  -- by induction on what is still to be seen; what has been seen is collected
  induction entries generalizing c seen with
  | nil => exact .inl ⟨c, rfl, by rwa [List.append_nil]⟩
  | cons e entries ih =>
    rcases h.addEntry e with ⟨c₁, hstep, h₁⟩ | ⟨fault, hstep, hoff⟩
    · rcases ih h₁ with ⟨c', hrest, h'⟩ | ⟨earlier, e', later, fault, rfl, hrest, hacc, hoff⟩
      · left
        refine ⟨c', ?_, by rwa [List.append_cons]⟩
        rw [Catalog.addEntries, hstep]
        exact hrest
      · right
        refine ⟨e :: earlier, e', later, fault, rfl, ?_, by rwa [List.append_cons],
          by rwa [List.append_cons]⟩
        rw [Catalog.addEntries, hstep]
        exact hrest
    · right
      refine ⟨[], e, entries, fault, rfl, ?_, ?_, ?_⟩
      · rw [Catalog.addEntries, hstep]
      · rw [List.append_nil]
        exact h.acceptable
      · rwa [List.append_nil]

/-- The suites of the catalog of some entries. -/
theorem Collects.suites_eq (h : c.Collects root entries) :
    ∃ inputs, List.Forall₂ (Reads root) (entries.filter (isModel root)) inputs ∧
      (c.suites.map fun s => (s.name, s.jobs)) =
        ("executable", (entries.filter isProgram).map (programJob root)) ::
          Tool.models.map fun tool => (tool.suiteName, inputs.map fun input => input.job tool) := by
  obtain ⟨inputs, hinputs, hshelves⟩ := h.exists_inputs
  refine ⟨inputs, hinputs, ?_⟩
  rw [hshelves.suites_eq, Tool.registered, List.map_cons, jobsOf, if_pos rfl]
  refine congrArg (List.cons _) (List.map_congr_left fun tool htool => ?_)
  rw [jobsOf, if_neg (Tool.ne_executable htool)]

/-! ## The directory -/

theorem sortedEntries_perm (entries : List DirEntry) : (sortedEntries entries).Perm entries :=
  List.mergeSort_perm _ _

/-- The entries are looked at in the order of the bytes of their names. -/
theorem sortedEntries_pairwise (entries : List DirEntry) :
    (sortedEntries entries).Pairwise fun a b => Text.encode a.1 ≤ Text.encode b.1 := by
  have hsorted : (sortedEntries entries).Pairwise fun a b => decide (a.1 ≤ b.1) := by
    apply List.pairwise_mergeSort
    · intro a b d hab hbd
      rw [decide_eq_true_eq] at hab hbd ⊢
      exact le_trans hab hbd
    · intro a b
      rw [Bool.or_eq_true, decide_eq_true_eq, decide_eq_true_eq]
      exact le_total a.1 b.1
  exact hsorted.imp fun h => Text.encode_le_encode_iff.mpr (of_decide_eq_true h)

/-- **A directory has just the catalog of its files, or the fault of the first file with which
something is wrong.** The entries are taken in the order `es` of the bytes of their names. There is
a catalog exactly if they are acceptable, and then it has one job for every program, one job for
every model and each of the sixteen tools that models are run through, and no others; the jobs of a
model have the same input. If there is none, then an entry is at fault, and nothing is wrong with
those before it. -/
theorem discovery_exact (root : Path) (entries : List DirEntry) :
    ∃ es : List DirEntry, es.Perm entries ∧
      (es.Pairwise fun a b => Text.encode a.1 ≤ Text.encode b.1) ∧
      ((∃ c, discover root (some entries) = .ok c) ↔ Acceptable root entries) ∧
      (∀ c, discover root (some entries) = .ok c →
        ∃ inputs, List.Forall₂ (Reads root) (es.filter (isModel root)) inputs ∧
          (c.suites.map fun s => (s.name, s.jobs)) =
            ("executable", (es.filter isProgram).map (programJob root)) ::
              Tool.models.map fun tool =>
                (tool.suiteName, inputs.map fun input => input.job tool)) ∧
      Tool.models.length = 16 ∧
      ∀ fault, discover root (some entries) = .error fault ↔
        ∃ earlier e later, es = earlier ++ e :: later ∧ Acceptable root earlier ∧
          Offends root earlier e fault := by
  have hperm := sortedEntries_perm entries
  refine ⟨sortedEntries entries, hperm, sortedEntries_pairwise entries, ?_⟩
  change ((∃ c, addEntries root empty (sortedEntries entries) = .ok c) ↔ _) ∧
    (∀ c, addEntries root empty (sortedEntries entries) = .ok c → _) ∧ Tool.models.length = 16 ∧
    ∀ fault, addEntries root empty (sortedEntries entries) = .error fault ↔ _
  rcases (collects_empty root).addEntries (sortedEntries entries) with
    ⟨c, hok, hc⟩ | ⟨earlier, e, later, fault, hsplit, herror, hacc, hoff⟩
  · have hacc := hc.acceptable
    rw [List.nil_append] at hacc hc
    rw [hok]
    refine ⟨iff_of_true ⟨c, rfl⟩ (hacc.of_perm hperm), ?_, rfl, fun fault => iff_of_false nofun ?_⟩
    · rintro c' heq
      obtain rfl := Except.ok.inj heq
      exact hc.suites_eq
    · rintro ⟨earlier, e, later, hsplit, -, hoff⟩
      exact hoff.not_acceptable (hsplit ▸ hacc)
  · rw [List.nil_append] at hacc hoff
    rw [herror]
    refine ⟨iff_of_false nofun fun hall => ?_, nofun, rfl, fun fault' => ⟨?_, ?_⟩⟩
    · exact hoff.not_acceptable (hsplit ▸ hall.of_perm hperm.symm)
    · intro heq
      obtain rfl := Except.error.inj heq
      exact ⟨earlier, e, later, hsplit, hacc, hoff⟩
    · rintro ⟨earlier', e', later', hsplit', hacc', hoff'⟩
      exact congrArg _ (hoff.first_unique (hsplit.symm.trans hsplit') hacc hacc' hoff')

/-- Of two models whose tests have the same name, that with the greater bytes is at fault. -/
example :
    discover "t" (some [("a_b.m", .file [] 0o644), ("a-b.m", .file [] 0o644)]) =
      .error (.duplicateTest "checker_single_threaded" "test_a_b_m" "t/a_b.m") := by
  cbv

end Catalog

end Conformance
