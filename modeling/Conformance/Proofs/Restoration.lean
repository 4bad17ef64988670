import Conformance.Proofs.StageInputs

/-!
# A job leaves the files as they were

A model is run in a scratch directory that is made for it and removed behind it, however its job
ends: with a verdict at any of its stages, or with a fault where a process cannot be started. What
is done to the files in between is done in this directory, as far as the processes themselves keep
to it, and so the files are the same before the job and after it.

## Main definitions

* `Deed`, `Leads`: what is done to the files of a host, and how this leads from world to world
* `Worked`: what is done between the making of a scratch directory and its removal
* `Job.scratch?`: the scratch directory of a job, if it has one
* `Sight.Confined`: a process that keeps to a scratch directory

## Main results

* `Worked.keeps`: what is kept in between is so at the end, and around every process
* `Stage.worked_perform`: what is done by a chain of stages
* `Job.exists_worked`: what is done by a job
* `Job.files_restored`: the files after a job are those before it
-/

namespace Conformance

variable {σ : Type}

/-! ## What is done to the files of a host -/

/-- **What is done to the files of a host** in the course of a job. -/
inductive Deed (σ : Type) where
  /-- A directory is made where nothing was. -/
  | makes (p : Place)
  /-- A file is written. -/
  | writes (p : Place) (content : Bytes)
  /-- A process is run, which may do anything. -/
  | runs (x : Sight σ)
  /-- A place is removed with everything below it. -/
  | removes (p : Place)

namespace Deed

/-- **How a deed changes the world.** -/
inductive Changes (runner : Runner σ) : Deed σ → World σ → World σ → Prop
  | makes {p : Place} {w : World σ} (free : w.files.occupied p = false) :
    Changes runner (.makes p) w { w with files := w.files.put p .directory }
  | writes (p : Place) (content : Bytes) (w : World σ) :
    Changes runner (.writes p content) w { w with files := w.files.write p content }
  | runs {x : Sight σ} (run : runner.run x.call x.environment x.before = (x.answer, x.after)) :
    Changes runner (.runs x) x.before x.after
  | removes (p : Place) (w : World σ) :
    Changes runner (.removes p) w { w with files := w.files.removeTree p }

/-- The process that is run. -/
def sight? : Deed σ → Option (Sight σ)
  | runs x => some x
  | _ => none

theorem mem_filterMap_sight? {ds : List (Deed σ)} {x : Sight σ} :
    x ∈ ds.filterMap sight? ↔ runs x ∈ ds := by
  rw [List.mem_filterMap]
  constructor
  · rintro ⟨d, hd, hx⟩
    cases d with
    | runs y =>
      obtain rfl := Option.some.inj hx
      exact hd
    | makes | writes | removes => cases hx
  · intro h
    exact ⟨runs x, h, rfl⟩

/-- Nothing is done but to run processes and to write files directly inside a directory, if there
is one. -/
def Inside (scratch? : Option Place) : Deed σ → Prop
  | runs _ => True
  | writes p _ => ∃ s ∈ scratch?, ∃ name, Path.IsFileName name ∧ p = s ++ [name]
  | makes _ | removes _ => False

end Deed

/-- **Deeds lead from one world to another**, one after the other. -/
inductive Leads (runner : Runner σ) : World σ → List (Deed σ) → World σ → Prop
  | nil (w : World σ) : Leads runner w [] w
  | cons {d : Deed σ} {ds : List (Deed σ)} {w u v : World σ} (change : d.Changes runner w u)
    (rest : Leads runner u ds v) : Leads runner w (d :: ds) v

namespace Leads

variable {runner : Runner σ} {w u v : World σ} {ds ds' : List (Deed σ)}

theorem append (h : Leads runner w ds u) (h' : Leads runner u ds' v) :
    Leads runner w (ds ++ ds') v := by
  induction h with
  | nil => exact h'
  | cons change _ ih => exact .cons change (ih h')

/-- **What every deed keeps** is so at the end, and before and after every deed. -/
theorem keeps (h : Leads runner w ds u) {P : World σ → Prop} (hw : P w)
    (hstep : ∀ d ∈ ds, ∀ v v', d.Changes runner v v' → P v → P v') :
    P u ∧ ∀ d ∈ ds, ∃ v v', d.Changes runner v v' ∧ P v ∧ P v' := by
  induction h with
  | nil => exact ⟨hw, by simp⟩
  | @cons d ds w v u change _ ih =>
    have hv : P v := hstep d List.mem_cons_self _ _ change hw
    obtain ⟨hu, hall⟩ := ih hv fun d hd => hstep d (List.mem_cons_of_mem _ hd)
    refine ⟨hu, fun d' hd' => ?_⟩
    rcases List.mem_cons.mp hd' with rfl | hd'
    · exact ⟨w, v, change, hw, hv⟩
    · exact hall d' hd'

end Leads

/-- **What is done between the making of a scratch directory and its removal**: processes are run
and seen, and files are written into the directory. -/
def Worked (runner : Runner σ) (scratch? : Option Place) (w : World σ) (seen : List (Sight σ))
    (u : World σ) : Prop :=
  ∃ deeds, Leads runner w deeds u ∧ deeds.filterMap Deed.sight? = seen ∧
    ∀ d ∈ deeds, d.Inside scratch?

namespace Worked

variable {runner : Runner σ} {scratch? : Option Place} {w u v : World σ} {x : Sight σ}
  {seen : List (Sight σ)}

theorem refl (runner : Runner σ) (scratch? : Option Place) (w : World σ) :
    Worked runner scratch? w [] w :=
  ⟨[], .nil w, rfl, by simp⟩

/-- One more thing is done. -/
theorem concat (h : Worked runner scratch? w seen u) {d : Deed σ} (change : d.Changes runner u v)
    (hinside : d.Inside scratch?) : Worked runner scratch? w (seen ++ d.sight?.toList) v := by
  obtain ⟨deeds, hleads, hseen, hbefore⟩ := h
  refine ⟨deeds ++ [d], hleads.append (.cons change (.nil v)), ?_, ?_⟩
  · rw [List.filterMap_append, hseen]
    cases d <;> rfl
  · intro d' hd'
    rcases List.mem_append.mp hd' with hd' | hd'
    · exact hbefore d' hd'
    · rwa [List.mem_singleton.mp hd']

/-- A stage is entered, with its file in the scratch directory. -/
theorem enter (h : Worked runner scratch? w seen u) {s : Stage} {scratch : Place}
    (hfile : ∀ name, s.file? = some name → scratch ∈ scratch? ∧ Path.IsFileName name)
    (before : String) : Worked runner scratch? w seen (s.enter scratch before u) := by
  unfold Stage.enter
  cases hname : s.file? with
  | none => exact h
  | some name =>
    obtain ⟨hscratch, hisName⟩ := hfile name hname
    rw [← List.append_nil seen]
    exact h.concat (.writes (scratch ++ [name]) (Text.encode before) u)
      ⟨scratch, hscratch, name, hisName, rfl⟩

/-- A process is run. -/
theorem run (h : Worked runner scratch? w seen x.before)
    (hrun : runner.run x.call x.environment x.before = (x.answer, x.after)) :
    Worked runner scratch? w (seen ++ [x]) x.after :=
  h.concat (.runs hrun) trivial

/-- What is seen are answers of the runner. -/
theorem run_eq (h : Worked runner scratch? w seen u) (hx : x ∈ seen) :
    runner.run x.call x.environment x.before = (x.answer, x.after) := by
  obtain ⟨deeds, hleads, rfl, -⟩ := h
  obtain ⟨-, hall⟩ := hleads.keeps (P := fun _ => True) trivial fun _ _ _ _ _ _ => trivial
  obtain ⟨v, v', change, -⟩ := hall _ (Deed.mem_filterMap_sight?.mp hx)
  cases change with
  | runs run => exact run

/-- **What is kept by every file that is written and every process that is seen** is so at the end,
and before and after every process. -/
theorem keeps (h : Worked runner scratch? w seen u) {P : World σ → Prop} (hw : P w)
    (hwrite : ∀ s ∈ scratch?, ∀ name content v, P v →
      P { v with files := v.files.write (s ++ [name]) content })
    (hrun : ∀ x ∈ seen, P x.before → P x.after) :
    P u ∧ ∀ x ∈ seen, P x.before ∧ P x.after := by
  obtain ⟨deeds, hleads, rfl, hinside⟩ := h
  obtain ⟨hu, hall⟩ := hleads.keeps hw fun d hd v v' change hv => by
    have hd' := hinside d hd
    cases change with
    | makes | removes => exact hd'.elim
    -- a process may do anything, so it is for the caller to say what it keeps
    | runs run => exact hrun _ (Deed.mem_filterMap_sight?.mpr hd) hv
    | writes p content =>
      obtain ⟨s, hs, name, -, rfl⟩ := hd'
      exact hwrite s hs name content v hv
  refine ⟨hu, fun x hx => ?_⟩
  obtain ⟨v, v', change, hv, hv'⟩ := hall _ (Deed.mem_filterMap_sight?.mp hx)
  cases change with
  | runs run => exact ⟨hv, hv'⟩

end Worked

/-! ## What is done by a chain of stages -/

/-- What is kept when a stage is entered and when a process is run is kept by a chain. -/
theorem Stage.perform_invariant {runner : Runner σ} {scratch : Place} {stages : List Stage}
    {P : World σ → Prop}
    (henter : ∀ s ∈ stages, ∀ before w, P w → P (s.enter scratch before w))
    (hrun : ∀ call environment w, P w → P (runner.run call environment w).2)
    (config : Config) (before : String) {w : World σ} (hw : P w) :
    P ((chain stages before).perform runner config scratch w).world := by
  induction stages generalizing before w with
  | nil => exact hw
  | cons s rest ih =>
    have hentered := henter s List.mem_cons_self before w hw
    have hleft := hrun (config.prepare (s.call before)) config.environment _ hentered
    rw [perform_cons]
    rcases hanswer : runner.run (config.prepare (s.call before)) config.environment
      (s.enter scratch before w) with ⟨answer, u⟩
    rw [hanswer] at hleft
    cases answer with
    | error failure =>
      rw [Procedure.perform_run_error scratch _ hanswer]
      exact hleft
    | ok o =>
      rw [Procedure.perform_run_ok scratch _ hanswer]
      cases s.check (config.interpret (s.call before) o) with
      | finished verdict => exact hleft
      | proceed => exact ih (fun s hs => henter s (List.mem_cons_of_mem _ hs)) o.stdout hleft

/-- **What is done by a chain of stages** whose files are in the scratch directory. -/
theorem Stage.worked_perform (runner : Runner σ) {scratch? : Option Place} {scratch : Place}
    {stages : List Stage}
    (hfiles : ∀ s ∈ stages, ∀ name, s.file? = some name →
      scratch ∈ scratch? ∧ Path.IsFileName name)
    (config : Config) (before : String) (w : World σ) :
    let u := ((chain stages before).perform runner.watching config scratch (w.watched [])).world
    Worked runner scratch? w u.state.2 u.unwatched := by
  have hstart : Worked runner scratch? w (w.watched []).state.2 (w.watched []).unwatched :=
    Worked.refl runner scratch? w
  refine perform_invariant (P := fun v => Worked runner scratch? w v.state.2 v.unwatched) ?_ ?_
    config before hstart
  · intro s hs before v hv
    have hentered : (s.enter scratch before v).unwatched = s.enter scratch before v.unwatched := by
      unfold enter
      cases s.file? <;> rfl
    rw [hentered, enter_state]
    exact hv.enter (hfiles s hs) before
  · intro call environment v hv
    exact hv.run (x := ⟨call, environment, v.unwatched, _, _⟩) rfl

/-! ## Scratch directories -/

namespace FileTree

/-- The files with a directory, if there is to be one. -/
def withDirectory (t : FileTree) : Option Place → FileTree
  | none => t
  | some s => t.put s .directory

/-- The files without a directory, if there was one. -/
def without (t : FileTree) : Option Place → FileTree
  | none => t
  | some s => t.removeTree s

end FileTree

/-- A place inside a directory, if there is one. -/
def Below (scratch? : Option Place) (place : Place) : Prop :=
  ∃ s ∈ scratch?, s <+: place ∧ place ≠ s

/-- **A process keeps to a scratch directory**: whatever it leaves, and whether it could be started
or not, everywhere else is what was there before. -/
def Sight.Confined (x : Sight σ) (scratch? : Option Place) : Prop :=
  ∀ place, ¬Below scratch? place → x.after.files.find? place = x.before.files.find? place

section Directory

variable {t t' : FileTree} {scratch? : Option Place} {s : Place}

theorem not_below_of_mem (hs : s ∈ scratch?) : ¬Below scratch? s := by
  rintro ⟨s', hs', -, hne⟩
  exact hne (Option.mem_unique hs hs')

theorem FileTree.isDirectory_withDirectory (t : FileTree) (hs : s ∈ scratch?) :
    (t.withDirectory scratch?).isDirectory s = true := by
  obtain rfl := Option.mem_def.mp hs
  by_cases hroot : s = []
  · rw [hroot]
    rfl
  · rw [isDirectory, withDirectory, find?_put t hroot, if_pos rfl]
    rfl

theorem FileTree.occupied_without (t : FileTree) (hs : s ∈ scratch?) :
    (t.without scratch?).occupied s = false := by
  obtain rfl := Option.mem_def.mp hs
  exact t.occupied_removeTree s

theorem FileTree.without_withDirectory (hfree : ∀ s ∈ scratch?, t.occupied s = false) :
    (t.withDirectory scratch?).without scratch? = t := by
  cases scratch? with
  | none => rfl
  | some s =>
    rw [withDirectory, without, removeTree_put t (List.prefix_refl s),
      removeTree_of_not_occupied (hfree s rfl)]

/-- **Where a directory was made and removed** everything is as before, if nothing was done but
below it. -/
theorem FileTree.find?_without_eq (hfree : ∀ s ∈ scratch?, s ≠ [] ∧ t.occupied s = false)
    (hkept : ∀ place, ¬Below scratch? place →
      t'.find? place = (t.withDirectory scratch?).find? place) (place : Place) :
    (t'.without scratch?).find? place = t.find? place := by
  cases scratch? with
  | none => exact hkept place (by simp [Below])
  | some s =>
    obtain ⟨hroot, hfree⟩ := hfree s rfl
    rw [without, find?_removeTree t' hroot]
    split_ifs with hplace
    · -- what was below is gone, and nothing was there
      obtain ⟨rest, rfl⟩ := hplace
      exact (find?_of_not_occupied hfree hroot rest).symm
    · have hne : place ≠ s := fun heq => hplace (heq ▸ List.prefix_refl s)
      have houtside : ¬Below (some s) place := by
        rintro ⟨s', hs', hprefix, -⟩
        exact hplace (Option.some.inj hs' ▸ hprefix)
      rw [hkept place houtside, withDirectory, find?_put_of_ne t hne]

variable (runner : Runner σ) {w : World σ}

theorem leads_makes (hfree : ∀ s ∈ scratch?, w.files.occupied s = false) :
    Leads runner w (scratch?.toList.map .makes)
      { w with files := w.files.withDirectory scratch? } := by
  cases scratch? with
  | none => exact .nil w
  | some s => exact .cons (.makes (hfree s rfl)) (.nil _)

theorem leads_removes (scratch? : Option Place) (w : World σ) :
    Leads runner w (scratch?.toList.map .removes) { w with files := w.files.without scratch? } := by
  cases scratch? with
  | none => exact .nil w
  | some s => exact .cons (.removes s w) (.nil _)

end Directory

namespace Worked

variable {runner : Runner σ} {scratch? : Option Place} {w u : World σ} {seen : List (Sight σ)}

/-- What is outside the scratch directory stays as it is, at the end and around every process. -/
theorem find?_eq (h : Worked runner scratch? w seen u)
    (hconfined : ∀ x ∈ seen, x.Confined scratch?) {place : Place} (hplace : ¬Below scratch? place) :
    u.files.find? place = w.files.find? place ∧ ∀ x ∈ seen,
      x.before.files.find? place = w.files.find? place ∧
        x.after.files.find? place = w.files.find? place := by
  refine h.keeps (P := fun v => v.files.find? place = w.files.find? place) rfl ?_ ?_
  · intro s hs name content v hv
    have hne : place ≠ s ++ [name] := by
      rintro rfl
      exact hplace ⟨s, hs, List.prefix_append s [name], by simp⟩
    exact (FileTree.find?_write_of_ne _ hne content).trans hv
  · intro x hx hbefore
    exact (hconfined x hx place hplace).trans hbefore

/-- The files without the scratch directory stay as they are. -/
theorem without_eq (h : Worked runner scratch? w seen u)
    (hconfined : ∀ x ∈ seen, x.after.files.without scratch? = x.before.files.without scratch?) :
    u.files.without scratch? = w.files.without scratch? := by
  refine (h.keeps (P := fun v => v.files.without scratch? = w.files.without scratch?) rfl ?_ ?_).1
  · intro s hs name content v hv
    obtain rfl := Option.mem_def.mp hs
    exact (FileTree.removeTree_write _ (List.prefix_append s [name]) content).trans hv
  · intro x hx hbefore
    exact (hconfined x hx).trans hbefore

end Worked

/-! ## What is done by a job -/

/-- Nothing is there where the scratch directory of a job is made. -/
theorem World.not_occupied_scratch (w : World σ) : w.files.occupied w.scratch = false := by
  obtain ⟨n, hname, hfree⟩ := w.files.exists_freshName Job.scratchParent
  rw [World.scratch, hname]
  exact hfree

namespace Job

/-- **The scratch directory of a job**, unless it is that of a test program or its directives skip
it. -/
def scratch? (job : Job) (w : World σ) : Option Place :=
  if job.tool = .executable ∨ job.input.expectations.skipReason.isSome then none
  else some w.scratch

/-- The files of the stages are directly inside the directory that they are given. -/
theorem isFileName_of_stage (job : Job) (config : Config) (scratch : Path) :
    ∀ s ∈ job.stages config scratch, ∀ name, s.file? = some name → Path.IsFileName name := by
  have hsource : Path.IsFileName "model.c" := by constructor <;> decide
  have hheader : Path.IsFileName "header.h" := by constructor <;> decide
  have huclid : Path.IsFileName "source.ucl" := by constructor <;> decide
  unfold stages
  cases job.tool with
  | executable => simp [executableStages]
  | checker v => simp [checkerStages]
  | murphi2c => simp [sourceStages, convertStage, hsource]
  | murphi2cHeader => simp [headerStages, convertStage, hheader]
  | murphi2uclid => simp [uclidStages, convertStage, huclid]
  | murphi2xml => simp [xmlStages, convertStage]

theorem isSome_scratch?_iff (job : Job) (w : World σ) :
    (job.scratch? w).isSome = true ↔
      job.tool ≠ .executable ∧ job.input.expectations.skipReason = none := by
  rw [scratch?]
  by_cases htool : job.tool = .executable
  · simp [htool]
  · cases job.input.expectations.skipReason <;> simp [htool]

/-- Whatever its scratch directory is, nothing is there yet. -/
theorem free_of_mem_scratch? {job : Job} {w : World σ} {s : Place} (hs : s ∈ job.scratch? w) :
    s ≠ [] ∧ w.files.occupied s = false := by
  unfold scratch? at hs
  split_ifs at hs
  · cases hs
  · obtain rfl := Option.some.inj hs
    exact ⟨by simp [World.scratch], w.not_occupied_scratch⟩

/-- **What is done by a job**: a scratch directory is made, if the job has one, and removed behind
the last of its processes, whatever this one answers. -/
theorem exists_worked (runner : Runner σ) (config : Config) (job : Job) (w : World σ) :
    ∃ u, Worked runner (job.scratch? w) { w with files := w.files.withDirectory (job.scratch? w) }
        (job.sights runner config w) u ∧
      (job.perform runner config w).world =
        { u with files := u.files.without (job.scratch? w) } := by
  have hworld : (job.perform runner config w).world =
      (job.perform runner.watching config (w.watched [])).world.unwatched := by
    rw [(sights_spec runner config job w).1]
    rfl
  -- what is done is read off the runner that keeps what it sees
  rw [hworld, sights, scratch?]
  by_cases htool : job.tool = .executable
  · rw [if_pos (.inl htool), perform, if_pos htool]
    have hfiles : ∀ s ∈ job.executableStages, ∀ name, s.file? = some name →
        [] ∈ (none : Option Place) ∧ Path.IsFileName name := by
      simp [executableStages]
    exact ⟨_, Stage.worked_perform runner hfiles config "" w, rfl⟩
  · cases hskip : job.input.expectations.skipReason with
    | some reason =>
      rw [if_pos (by simp), perform_of_declared _ _ _ htool hskip]
      exact ⟨w, .refl runner none w, rfl⟩
    | none =>
      have hfiles : ∀ s ∈ job.stages config w.scratchPath, ∀ name, s.file? = some name →
          w.scratch ∈ some w.scratch ∧ Path.IsFileName name :=
        fun s hs name hname => ⟨rfl, job.isFileName_of_stage config _ s hs name hname⟩
      rw [if_neg (by simp [htool]), perform_of_model _ _ _ htool hskip]
      simp only [inScratch, procedure_eq_chain]
      have hworked := Stage.worked_perform runner hfiles config ""
        { w with files := w.files.put w.scratch .directory }
      exact ⟨_, hworked, rfl⟩

/-- **A job leaves the files as they were**, whatever it is, in whatever configuration, and however
it ends. What is seen are its exchanges, with their worlds. Only a model that its directives do not
skip has a scratch directory. All that is done to the files is that this directory is made where
nothing was, that the processes that are seen are run and files are written directly inside the
directory, and that the directory is removed at last; so nothing is left of it, whatever the
processes did. If they kept to it, or left the files alone where there is none, then every place
holds what it held before, and the directory was there around every process. If they left the rest
of the tree the very same, then so is the whole tree. -/
theorem files_restored (runner : Runner σ) (config : Config) (job : Job) (w : World σ) :
    let seen := job.sights runner config w
    let p := job.perform runner config w
    let scratch? := job.scratch? w
    job.perform runner.watching config (w.watched []) = p.watched seen ∧
      p.exchanges = seen.map Sight.exchange ∧
      (scratch?.isSome = true ↔
        job.tool ≠ .executable ∧ job.input.expectations.skipReason = none) ∧
      (∃ between,
        Leads runner w (scratch?.toList.map .makes ++ between ++ scratch?.toList.map .removes)
            p.world ∧
          between.filterMap Deed.sight? = seen ∧ ∀ d ∈ between, d.Inside scratch?) ∧
      (∀ s ∈ scratch?, w.files.occupied s = false ∧ p.world.files.occupied s = false) ∧
      ((∀ x ∈ seen, x.Confined scratch?) →
        (∀ place, p.world.files.find? place = w.files.find? place) ∧
          ∀ s ∈ scratch?, ∀ x ∈ seen,
            x.before.files.isDirectory s = true ∧ x.after.files.isDirectory s = true) ∧
      ((∀ x ∈ seen, x.after.files.without scratch? = x.before.files.without scratch?) →
        p.world.files = w.files) := by
  intro seen p scratch?
  obtain ⟨hwatched, hexchanges, -⟩ := sights_spec runner config job w
  obtain ⟨u, hworked, hworld⟩ := exists_worked runner config job w
  have hfree : ∀ s ∈ scratch?, s ≠ [] ∧ w.files.occupied s = false := fun s =>
    free_of_mem_scratch?
  refine ⟨hwatched, hexchanges, job.isSome_scratch?_iff w, ?_, ?_, ?_, ?_⟩
  · obtain ⟨between, hleads, hseen, hinside⟩ := hworked
    refine ⟨between, ?_, hseen, hinside⟩
    -- the directory is made, then comes what is done in it, and then the removal
    have hopened := leads_makes runner fun s hs => (hfree s hs).2
    rw [hworld]
    exact (hopened.append hleads).append (leads_removes runner scratch? u)
  · intro s hs
    rw [hworld]
    exact ⟨(hfree s hs).2, u.files.occupied_without hs⟩
  · intro hconfined
    constructor
    · rw [hworld]
      exact FileTree.find?_without_eq hfree fun place hplace =>
        (hworked.find?_eq hconfined hplace).1
    · intro s hs x hx
      obtain ⟨hbefore, hafter⟩ := (hworked.find?_eq hconfined (not_below_of_mem hs)).2 x hx
      have hmade := w.files.isDirectory_withDirectory hs
      rw [FileTree.isDirectory, FileTree.isDirectory, hbefore, hafter]
      exact ⟨hmade, hmade⟩
  · intro hconfined
    rw [hworld]
    exact (hworked.without_eq hconfined).trans
      (FileTree.without_withDirectory fun s hs => (hfree s hs).2)

end Job

/-- The runner whose processes answer as they are due, and leave a file behind. -/
def Runner.leaving (p : Place) : Runner (List (Except SpawnFailure Output)) where
  run call environment w :=
    let (answer, u) := Runner.ofAnswers.run call environment w
    (answer, { u with files := u.files.write p [] })

theorem Runner.files_leaving (p : Place) (call : Invocation) (environment : Environment)
    (w : World (List (Except SpawnFailure Output))) :
    ((leaving p).run call environment w).2.files = w.files.write p [] := by
  obtain ⟨files, state⟩ := w
  cases state <;> rfl

/-- What processes leave in a scratch directory is removed with it where the compiler is not
found. -/
theorem Job.files_restored_of_unstarted :
    let runner := Runner.leaving ["tmp", "rumur-harness-0", "core"]
    let w := World.answering [.ok { stdout := "int x;" }, .error ⟨"cc", "not found"⟩]
    let p := (Job.bare .murphi2c).perform runner Config.bare w
    p.result = .error (.spawn ⟨"cc", "not found"⟩) ∧ p.exchanges.length = 2 ∧
      (∀ place, p.world.files.find? place = w.files.find? place) ∧ p.world.files = w.files := by
  intro runner w p
  obtain ⟨-, -, -, -, -, hfind, hfiles⟩ :=
    Job.files_restored runner Config.bare (Job.bare .murphi2c) w
  obtain ⟨u, hworked, -⟩ := Job.exists_worked runner Config.bare (Job.bare .murphi2c) w
  have hscratch : (Job.bare .murphi2c).scratch? w = some ["tmp", "rumur-harness-0"] := by decide
  have hbelow : ["tmp", "rumur-harness-0"] <+: ["tmp", "rumur-harness-0", "core"] := by decide
  have hleft : ∀ x ∈ (Job.bare .murphi2c).sights runner Config.bare w,
      x.after.files = x.before.files.write ["tmp", "rumur-harness-0", "core"] [] := by
    intro x hx
    rw [← Runner.files_leaving _ x.call x.environment x.before]
    exact congrArg (fun r => r.2.files) (hworked.run_eq hx).symm
  rw [hscratch] at hfind hfiles
  refine ⟨rfl, rfl, (hfind ?_).1, hfiles ?_⟩
  · intro x hx place hplace
    have hne : place ≠ ["tmp", "rumur-harness-0", "core"] := by
      rintro rfl
      exact hplace ⟨_, rfl, hbelow, by decide⟩
    rw [hleft x hx, FileTree.find?_write_of_ne _ hne]
  · intro x hx
    rw [hleft x hx]
    exact FileTree.removeTree_write _ hbelow []

end Conformance
