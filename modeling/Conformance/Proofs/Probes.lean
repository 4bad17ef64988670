import Conformance.Proofs.CommandLine
import Conformance.Proofs.Dictionary
import Conformance.Proofs.Facts
import Conformance.Proofs.FileTree
import Conformance.Proofs.Text.Trim
import Conformance.Rehearsal

/-!
# What probes state

The programs directly inside the directory of probes are run in ascending order of their names. As
long as each of them states a fact, the facts are just what they state, one for every program. The
first one with which something is amiss ends this, and none behind it is run. The configuration is
then the one that the facts state.

## Main definitions

* `ProbeAnswer.States`, `ProbeAnswer.Amiss`: the fact that an answer states, or what is amiss with
  it
* `probeAnswers`: what probes answer when they are run one after the other
* `ComeTo`: what the probes with some answers come to, and what is run until then
* `FileTree.HasProgram`: a program directly inside a directory

## Main results

* `runProbes_comeTo`: what the programs among some entries come to
* `ComeTo.unique`: answers come to one thing only
* `Config.stated_by_probes`: the configuration that a directory of probes states
-/

namespace Conformance

variable {σ : Type}

/-! ## One probe -/

/-- A probe by its name, with what it answers. -/
abbrev ProbeAnswer := String × Except SpawnFailure Output

namespace ProbeAnswer

/-- The exchange with a probe of the directory `dir`. It is run without arguments, and nothing is
added to its environment. -/
def exchange (dir : Path) (a : ProbeAnswer) : Exchange :=
  ⟨{ program := Path.join dir a.1 }, [], a.2⟩

/-- **The fact that a probe states**: it has the name of the probe, which succeeds, and its value is
the literal on standard output, without the blanks around it. -/
def States (a : ProbeAnswer) (fact : String × Literal) : Prop :=
  fact.1 = a.1 ∧ ∃ o text, a.2 = .ok o ∧ o.exitCode = 0 ∧ Text.Trims o.stdout.toList text ∧
    Literal.parse (String.ofList text) = .ok fact.2

/-- **What is amiss with a probe**, as the fault that it is reported by: it cannot be started, it
does not succeed, or there is no literal on its standard output. -/
inductive Amiss (dir : Path) : ProbeAnswer → Fault → Prop
  | notStarted (name : String) (failure : SpawnFailure) :
    Amiss dir (name, .error failure) (.probe (Path.join dir name) (.notStarted failure.reason))
  | unsuccessful (name : String) {o : Output} {text : List Char} (failure : o.exitCode ≠ 0)
    (trims : Text.Trims o.stderr.toList text) :
    Amiss dir (name, .ok o)
      (.probe (Path.join dir name) (.unsuccessful o.exitCode (String.ofList text)))
  | malformed (name : String) {o : Output} {text : List Char} {err : Literal.Error}
    (success : o.exitCode = 0) (trims : Text.Trims o.stdout.toList text)
    (wrong : Literal.parse (String.ofList text) = .error err) :
    Amiss dir (name, .ok o)
      (.probe (Path.join dir name) (.malformed (String.ofList text) err))

variable {dir : Path} {a : ProbeAnswer} {fact : String × Literal} {fault : Fault}

theorem probeFact_of_not_started (path : Path) (failure : SpawnFailure) :
    probeFact path (.error failure) = .error (.probe path (.notStarted failure.reason)) := rfl

theorem probeFact_of_unsuccessful (path : Path) {o : Output} (h : o.exitCode ≠ 0) :
    probeFact path (.ok o) = .error (.probe path (.unsuccessful o.exitCode
      (String.ofList (Text.trim o.stderr.toList)))) :=
  if_pos h

theorem probeFact_of_success (path : Path) {o : Output} (h : o.exitCode = 0) :
    probeFact path (.ok o) =
      match Literal.parse (String.ofList (Text.trim o.stdout.toList)) with
      | .ok v => .ok v
      | .error e =>
        .error (.probe path (.malformed (String.ofList (Text.trim o.stdout.toList)) e)) := by
  rw [Literal.parse, String.toList_ofList]
  exact if_neg (not_not.mpr h)

/-- **An answer states a fact** exactly if that is what is read of it. -/
theorem probeFact_eq_ok_iff {v : Literal} :
    probeFact (Path.join dir a.1) a.2 = .ok v ↔ a.States (a.1, v) := by
  obtain ⟨name, answer⟩ := a
  constructor
  · intro h
    cases answer with
    | error failure => exact absurd h nofun
    | ok o =>
      by_cases hcode : o.exitCode = 0
      · rw [probeFact_of_success _ hcode] at h
        split at h
        · next v' hparse =>
          obtain rfl := Except.ok.inj h
          exact ⟨rfl, o, _, rfl, hcode, Text.trims_trim _, hparse⟩
        · exact absurd h nofun
      · rw [probeFact_of_unsuccessful _ hcode] at h
        exact absurd h nofun
  · rintro ⟨-, o, text, hanswer, hcode, htrims, hparse⟩
    obtain rfl : answer = .ok o := hanswer
    rw [probeFact_of_success _ hcode, htrims.trim_eq, hparse]

/-- **Something is amiss with an answer** exactly if no fact is read of it. -/
theorem probeFact_eq_error_iff :
    probeFact (Path.join dir a.1) a.2 = .error fault ↔ Amiss dir a fault := by
  obtain ⟨name, answer⟩ := a
  constructor
  · intro h
    cases answer with
    | error failure =>
      obtain rfl := Except.error.inj h
      exact .notStarted name failure
    | ok o =>
      by_cases hcode : o.exitCode = 0
      · rw [probeFact_of_success _ hcode] at h
        split at h
        · exact absurd h nofun
        · next err hparse =>
          obtain rfl := Except.error.inj h
          exact .malformed name hcode (Text.trims_trim _) hparse
      · rw [probeFact_of_unsuccessful _ hcode] at h
        obtain rfl := Except.error.inj h
        exact .unsuccessful name hcode (Text.trims_trim _)
  · rintro (_ | ⟨-, hcode, htrims⟩ | ⟨-, hcode, htrims, hparse⟩)
    · exact probeFact_of_not_started _ _
    · rw [probeFact_of_unsuccessful _ hcode, htrims.trim_eq]
    · rw [probeFact_of_success _ hcode, htrims.trim_eq, hparse]

theorem States.probeFact_eq (h : a.States fact) :
    probeFact (Path.join dir a.1) a.2 = .ok fact.2 := by
  obtain ⟨name, v⟩ := fact
  obtain rfl : name = a.1 := h.1
  exact probeFact_eq_ok_iff.mpr h

theorem States.unique {fact' : String × Literal} (h : a.States fact) (h' : a.States fact') :
    fact = fact' := by
  have hread : probeFact (Path.join "" a.1) a.2 = .ok fact.2 := h.probeFact_eq
  rw [h'.probeFact_eq] at hread
  exact Prod.ext (h.1.trans h'.1.symm) (Except.ok.inj hread).symm

theorem Amiss.not_states (h : Amiss dir a fault) : ¬ a.States fact := by
  intro hstates
  have herror := probeFact_eq_error_iff.mpr h
  rw [hstates.probeFact_eq] at herror
  contradiction

theorem Amiss.unique {fault' : Fault} (h : Amiss dir a fault) (h' : Amiss dir a fault') :
    fault = fault' :=
  Except.error.inj ((probeFact_eq_error_iff.mpr h).symm.trans (probeFact_eq_error_iff.mpr h'))

end ProbeAnswer

open ProbeAnswer

/-! ## Some probes -/

/-- What the probes with some names answer, if each is run in the world that those before it
leave. -/
def probeAnswers (runner : Runner σ) (dir : Path) : List String → World σ → List ProbeAnswer
  | [], _ => []
  | name :: names, w =>
    let (answer, u) := runner.run { program := Path.join dir name } [] w
    (name, answer) :: probeAnswers runner dir names u

/-- **What the probes with some answers come to**, and the exchanges with them until then. If all of
them state facts, they come to these facts, and all of them are run. If something is amiss with one
of them and those before it state facts, they come to its fault, and none behind it is run. -/
inductive ComeTo (dir : Path) (given : List ProbeAnswer) :
    Except Fault (Dictionary Literal) → List Exchange → Prop
  | facts {facts : Dictionary Literal} (stated : List.Forall₂ States given facts) :
    ComeTo dir given (.ok facts) (given.map (exchange dir))
  | fault {earlier later : List ProbeAnswer} {a : ProbeAnswer} {facts : Dictionary Literal}
    {fault : Fault} (split : given = earlier ++ a :: later)
    (stated : List.Forall₂ States earlier facts) (amiss : Amiss dir a fault) :
    ComeTo dir given (.error fault) ((earlier ++ [a]).map (exchange dir))

section Probes

variable {dir : Path} {given : List ProbeAnswer} {a : ProbeAnswer} {fact : String × Literal}
  {stated stated' : Except Fault (Dictionary Literal)} {asked asked' : List Exchange}
  {fault : Fault}

theorem probeAnswers_cons {runner : Runner σ} {name : String} {answer : Except SpawnFailure Output}
    {w u : World σ} (names : List String)
    (h : runner.run { program := Path.join dir name } [] w = (answer, u)) :
    probeAnswers runner dir (name :: names) w =
      (name, answer) :: probeAnswers runner dir names u := by
  rw [probeAnswers, h]

/-- Every probe answers once. -/
theorem map_fst_probeAnswers (runner : Runner σ) (dir : Path) (names : List String) (w : World σ) :
    (probeAnswers runner dir names w).map Prod.fst = names := by
  induction names generalizing w with
  | nil => rfl
  | cons name names ih =>
    rcases hrun : runner.run { program := Path.join dir name } [] w with ⟨answer, u⟩
    rw [probeAnswers_cons names hrun, List.map_cons, ih u]

theorem comeTo_nil (dir : Path) : ComeTo dir [] (.ok []) [] :=
  .facts .nil

/-- A probe that states a fact comes before what the others come to. -/
theorem ComeTo.cons (h : ComeTo dir given stated asked) (ha : a.States fact) :
    ComeTo dir (a :: given) (stated.map (fact :: ·)) (a.exchange dir :: asked) := by
  cases h with
  | facts hstated => exact .facts (.cons ha hstated)
  | @fault earlier later a' _ _ hsplit hstated hamiss =>
    exact .fault (congrArg (a :: ·) hsplit) (.cons ha hstated) hamiss

/-- Behind a probe with which something is amiss none is run. -/
theorem comeTo_cons_of_amiss (h : Amiss dir a fault) (given : List ProbeAnswer) :
    ComeTo dir (a :: given) (.error fault) [a.exchange dir] :=
  .fault rfl .nil h

/-- The facts have the names of the probes. -/
theorem map_fst_of_states {facts : Dictionary Literal} (h : List.Forall₂ States given facts) :
    facts.map Prod.fst = given.map Prod.fst := by
  induction h with
  | nil => rfl
  | cons hstates _ ih => rw [List.map_cons, List.map_cons, ih, hstates.1]

theorem ComeTo.eq_of_nil (h : ComeTo dir [] stated asked) : stated = .ok [] ∧ asked = [] := by
  cases h with
  | facts hstated =>
    cases hstated with
    | nil => exact ⟨rfl, rfl⟩
  | fault hsplit => simp at hsplit

/-- **What the first of some probes does**: it states a fact and the others come to something, or
something is amiss with it. -/
theorem ComeTo.cons_cases (h : ComeTo dir (a :: given) stated asked) :
    (∃ fact stated' asked', a.States fact ∧ ComeTo dir given stated' asked' ∧
        stated = stated'.map (fact :: ·) ∧ asked = a.exchange dir :: asked') ∨
      ∃ fault, Amiss dir a fault ∧ stated = .error fault ∧ asked = [a.exchange dir] := by
  cases h with
  | facts hstated =>
    cases hstated with
    | cons hfact hrest => exact .inl ⟨_, _, _, hfact, .facts hrest, rfl, rfl⟩
  | @fault earlier later a' facts fault hsplit hstated hamiss =>
    cases earlier with
    | nil =>
      obtain ⟨rfl, rfl⟩ := List.cons.inj hsplit
      exact .inr ⟨fault, hamiss, rfl, rfl⟩
    | cons first earlier =>
      obtain ⟨rfl, rfl⟩ := List.cons.inj hsplit
      cases hstated with
      | cons hfact hrest => exact .inl ⟨_, _, _, hfact, .fault rfl hrest hamiss, rfl, rfl⟩

/-- **Probes come to one thing only.** -/
theorem ComeTo.unique (h : ComeTo dir given stated asked) (h' : ComeTo dir given stated' asked') :
    stated = stated' ∧ asked = asked' := by
  induction given generalizing stated stated' asked asked' with
  | nil =>
    obtain ⟨rfl, rfl⟩ := h.eq_of_nil
    obtain ⟨rfl, rfl⟩ := h'.eq_of_nil
    exact ⟨rfl, rfl⟩
  | cons a given ih =>
    rcases h.cons_cases with
      ⟨fact, stated, asked, hfact, hrest, rfl, rfl⟩ | ⟨fault, hamiss, rfl, rfl⟩
    · rcases h'.cons_cases with
        ⟨fact', stated', asked', hfact', hrest', rfl, rfl⟩ | ⟨fault', hamiss', rfl, rfl⟩
      · obtain rfl := hfact.unique hfact'
        obtain ⟨rfl, rfl⟩ := ih hrest hrest'
        exact ⟨rfl, rfl⟩
      · exact absurd hfact hamiss'.not_states
    · rcases h'.cons_cases with
        ⟨fact', stated', asked', hfact', hrest', rfl, rfl⟩ | ⟨fault', hamiss', rfl, rfl⟩
      · exact absurd hfact' hamiss.not_states
      · obtain rfl := hamiss.unique hamiss'
        exact ⟨rfl, rfl⟩

end Probes

/-! ## The entries of a directory -/

section Entries

/-- The names of the programs among some entries, in their order. -/
def programNames (entries : List DirEntry) : List String :=
  (entries.filter DirEntry.isProgram).map Prod.fst

theorem programNames_cons_of_isProgram {e : DirEntry} (h : e.isProgram) (entries : List DirEntry) :
    programNames (e :: entries) = e.1 :: programNames entries := by
  rw [programNames, List.filter_cons_of_pos h, List.map_cons, programNames]

theorem programNames_cons_of_not_isProgram {e : DirEntry} (h : ¬ e.isProgram)
    (entries : List DirEntry) : programNames (e :: entries) = programNames entries := by
  rw [programNames, List.filter_cons_of_neg h, programNames]

/-- Facts that are added to a dictionary one after the other. -/
def addFacts (facts new : Dictionary Literal) : Dictionary Literal :=
  new.foldl (fun d e => d.insert e.1 e.2) facts

/-- **What the programs among some entries come to.** Their facts are added to those that are there
already. -/
theorem runProbes_comeTo (runner : Runner σ) (dir : Path) (facts : Dictionary Literal)
    (entries : List DirEntry) (w : World σ) :
    ∃ stated asked,
      ComeTo dir (probeAnswers runner dir (programNames entries) w) stated asked ∧
      (runProbes runner dir facts entries w).result = stated.map (addFacts facts) ∧
      (runProbes runner dir facts entries w).exchanges = asked := by
  -- by induction on the entries still to be looked at; an entry that is no program is passed over
  induction entries generalizing facts w with
  | nil => exact ⟨_, _, comeTo_nil dir, rfl, rfl⟩
  | cons e entries ih =>
    by_cases h : e.isProgram
    · rw [programNames_cons_of_isProgram h]
      rcases hrun : runner.run (e.probeCall dir) [] w with ⟨answer, u⟩
      rw [probeAnswers_cons _ hrun]
      let a : ProbeAnswer := (e.1, answer)
      cases hfact : probeFact (Path.join dir e.1) answer with
      | error fault =>
        have hamiss : Amiss dir a fault := probeFact_eq_error_iff.mp hfact
        rw [runProbes_cons_of_fault facts entries h hrun hfact]
        exact ⟨_, _, comeTo_cons_of_amiss hamiss _, rfl, rfl⟩
      | ok v =>
        have hstates : a.States (a.1, v) := probeFact_eq_ok_iff.mp hfact
        rw [runProbes_cons_of_fact facts entries h hrun hfact]
        obtain ⟨stated, asked, hcome, hresult, hexchanges⟩ := ih (facts.insert e.1 v) u
        refine ⟨_, _, hcome.cons hstates, ?_, congrArg _ hexchanges⟩
        rw [hresult]
        cases stated <;> rfl
    · rw [programNames_cons_of_not_isProgram h, runProbes_cons_of_not_isProgram _ _ _ _ _ h]
      exact ih facts w

/-- Programs are the files that somebody may execute. -/
theorem isExecutable_iff {node : Node} :
    node.isExecutable ↔ ∃ content mode, node = .file content mode ∧ mode &&& 0o111 ≠ 0 := by
  cases node <;> simp [Node.isExecutable]

theorem mem_programNames_sortedEntries {entries : List DirEntry} {name : String} :
    name ∈ programNames (sortedEntries entries) ↔
      ∃ content mode, (name, Node.file content mode) ∈ entries ∧ mode &&& 0o111 ≠ 0 := by
  have hmem : ∀ e, e ∈ sortedEntries entries ↔ e ∈ entries := fun _ =>
    (Catalog.sortedEntries_perm entries).mem_iff
  simp only [programNames, List.mem_map, List.mem_filter, hmem, DirEntry.isProgram,
    isExecutable_iff]
  constructor
  · rintro ⟨⟨name, node⟩, ⟨hentry, content, mode, rfl, hmode⟩, rfl⟩
    exact ⟨content, mode, hentry, hmode⟩
  · rintro ⟨content, mode, hentry, hmode⟩
    exact ⟨_, ⟨hentry, content, mode, rfl, hmode⟩, rfl⟩

/-- The names of the programs ascend in the order of their bytes. -/
theorem programNames_sortedEntries_pairwise {entries : List DirEntry}
    (h : (entries.map Prod.fst).Nodup) :
    (programNames (sortedEntries entries)).Pairwise fun a b => Text.encode a < Text.encode b := by
  have hnodup : ((sortedEntries entries).map Prod.fst).Nodup :=
    ((Catalog.sortedEntries_perm entries).map _).nodup_iff.mpr h
  have hstrict : (sortedEntries entries).Pairwise fun a b =>
      Text.encode a.1 < Text.encode b.1 := by
    refine ((Catalog.sortedEntries_pairwise entries).and (List.pairwise_map.mp hnodup)).imp ?_
    rintro a b ⟨hle, hne⟩
    have hlt : a.1 < b.1 := lt_of_le_of_ne (Text.encode_le_encode_iff.mp hle) hne
    exact Text.encode_lt_encode hlt
  rw [programNames, List.pairwise_map]
  exact hstrict.filter _

end Entries

/-! ## The configuration -/

/-- **A program directly inside a directory**: at the place of this name there is a file that
somebody may execute. -/
def FileTree.HasProgram (t : FileTree) (place : Place) (name : String) : Prop :=
  t.isDirectory place ∧ ∃ content mode, t.find? (place ++ [name]) = some (.file content mode) ∧
    mode &&& 0o111 ≠ 0

namespace Config

variable {t : FileTree} {current : Place} {dir : Path}

theorem listing?_of_isDirectory (h : t.isDirectory (Place.ofPath current dir)) :
    t.listing? current dir = some (t.children (Place.ofPath current dir)) :=
  if_pos h

theorem listing?_of_not_isDirectory (h : ¬ t.isDirectory (Place.ofPath current dir)) :
    t.listing? current dir = none :=
  if_neg h

/-- No name is listed twice. -/
theorem nodup_listing (h : t.Distinct) (current : Place) (dir : Path) :
    (((t.listing? current dir).getD []).map Prod.fst).Nodup := by
  by_cases hdir : t.isDirectory (Place.ofPath current dir)
  · rw [listing?_of_isDirectory hdir]
    exact h.nodup_children _
  · rw [listing?_of_not_isDirectory hdir]
    exact List.nodup_nil

/-- **The programs that are listed** are those directly inside the directory; there are none without
it. -/
theorem mem_programNames_listing (h : t.Distinct) {name : String} :
    name ∈ programNames (sortedEntries ((t.listing? current dir).getD [])) ↔
      t.HasProgram (Place.ofPath current dir) name := by
  rw [mem_programNames_sortedEntries, FileTree.HasProgram]
  by_cases hdir : t.isDirectory (Place.ofPath current dir)
  · rw [listing?_of_isDirectory hdir, Option.getD_some]
    simp only [h.mem_children_iff, hdir, true_and]
  · rw [listing?_of_not_isDirectory hdir]
    simp [hdir]

variable {runner : Runner σ} {entries : Option (List DirEntry)} {w : World σ}

/-- **The programs of a directory come to its facts**, or to the fault of the first with which
something is amiss. -/
theorem probed_comeTo (h : ((entries.getD []).map Prod.fst).Nodup) :
    ComeTo dir (probeAnswers runner dir (programNames (sortedEntries (entries.getD []))) w)
      (probed runner dir entries w).result (probed runner dir entries w).exchanges := by
  obtain ⟨stated, asked, hcome, hresult, hexchanges⟩ :=
    runProbes_comeTo runner dir [] (sortedEntries (entries.getD [])) w
  rw [probed, hresult, hexchanges]
  cases stated with
  | error fault => exact hcome
  | ok facts =>
    -- the names of the facts ascend, so that adding them one by one gives just these facts
    have hnames : facts.map Prod.fst = programNames (sortedEntries (entries.getD [])) := by
      cases hcome with
      | facts hstated => rw [map_fst_of_states hstated, map_fst_probeAnswers]
    have hascending : facts.Ascending := by
      have hpairwise := programNames_sortedEntries_pairwise h
      rw [← hnames, List.pairwise_map] at hpairwise
      exact hpairwise.imp Text.encode_lt_encode_iff.mp
    have hfacts : addFacts [] facts = facts := hascending.ofList_eq
    rw [Except.map, hfacts]
    exact hcome

/-- Without a directory there are no facts, and nothing is run. -/
theorem probed_of_missing (runner : Runner σ) (dir : Path) (w : World σ) :
    probed runner dir none w = ⟨.ok [], [], w⟩ := by
  rw [probed, Option.getD_none, sortedEntries, List.mergeSort_nil, runProbes]

/-! ## The facts of a configuration -/

variable {facts facts' : Dictionary Literal} {toolchain : Toolchain} {cpus : Nat}

theorem exists_build_eq_ok_iff :
    (∃ config, build facts toolchain cpus = .ok config) ↔
      ∀ fact ∈ recognised, OfKind facts fact := by
  simp only [build_eq_ok_iff, exists_ofFacts_eq_ok_iff]

theorem build_eq_error_iff_firstWrong {fault : Fault} :
    build facts toolchain cpus = .error fault ↔
      ∃ m, FirstWrong facts recognised m ∧ m.fault = fault := by
  simp only [build_eq_error_iff, ofFacts_eq_error_iff]

theorem build_congr (h : ∀ fact ∈ recognised, facts'.get? fact.1 = facts.get? fact.1) :
    build facts' toolchain cpus =
      (build facts toolchain cpus).map fun config => { config with facts := facts' } := by
  rw [build, build, ofFacts_congr h]
  cases ofFacts facts toolchain cpus <;> rfl

/-- **The configuration is what the probes say, or the first thing that is wrong is reported.** The
probes are the files directly inside the directory that somebody may execute, in ascending order of
the bytes of their names; without the directory there are none. They come to just the facts that
they state, or to the fault of the first with which something is amiss, and none behind that one is
run; each is run in the world that those before it leave. The facts state a configuration exactly if
every recognised one is of its kind. Then the configuration has of each its value or the default,
one processor at least, and all of the facts; else the first recognised fact in their order that is
of another kind is reported. Facts that are not recognised do not matter. -/
theorem stated_by_probes (runner : Runner σ) (current : Place) (dir : Path) (toolchain : Toolchain)
    (cpus : Nat) (w : World σ) (h : w.files.Distinct) :
    let found := w.files.listing? current dir
    let p := probed runner dir found w
    let q := discover runner dir found toolchain cpus w
    (∃ names : List String,
      (names.Pairwise fun a b => Text.encode a < Text.encode b) ∧
      (∀ name, name ∈ names ↔ w.files.HasProgram (Place.ofPath current dir) name) ∧
      ∀ stated asked, p.result = stated ∧ p.exchanges = asked ↔
        ComeTo dir (probeAnswers runner dir names w) stated asked) ∧
    (w.files.isDirectory (Place.ofPath current dir) = false →
      p.result = .ok [] ∧ p.exchanges = []) ∧
    (q.result = p.result >>= fun facts => build facts toolchain cpus) ∧
    q.exchanges = p.exchanges ∧
    (∀ log, discover runner.logging dir found toolchain cpus (w.logged log) = q.logged log) ∧
    ∀ facts : Dictionary Literal,
      ((∃ config, build facts toolchain cpus = .ok config) ↔
        ∀ fact ∈ recognised, OfKind facts fact) ∧
      (∀ config, build facts toolchain cpus = .ok config →
        config.Reflects facts toolchain cpus ∧ 1 ≤ config.cpus) ∧
      (∀ fault, build facts toolchain cpus = .error fault ↔
        ∃ m, FirstWrong facts recognised m ∧ m.fault = fault) ∧
      ∀ facts' : Dictionary Literal,
        (∀ fact ∈ recognised, facts'.get? fact.1 = facts.get? fact.1) →
        build facts' toolchain cpus =
          (build facts toolchain cpus).map fun config => { config with facts := facts' } := by
  intro found p q
  have hcome : ComeTo dir
      (probeAnswers runner dir (programNames (sortedEntries (found.getD []))) w) p.result
      p.exchanges :=
    probed_comeTo (nodup_listing h current dir)
  refine ⟨⟨programNames (sortedEntries (found.getD [])), ?_, ?_, ?_⟩, ?_, ?_, ?_, ?_, ?_⟩
  · exact programNames_sortedEntries_pairwise (nodup_listing h current dir)
  · intro name
    exact mem_programNames_listing h
  · intro stated asked
    constructor
    · rintro ⟨rfl, rfl⟩
      exact hcome
    · exact hcome.unique
  · intro hmissing
    have hfound : found = none := listing?_of_not_isDirectory (by simp [hmissing])
    simp only [p, hfound, probed_of_missing, and_self]
  · simp only [q, discover_eq, p]
  · simp only [q, discover_eq, p]
  · exact discover_logging runner dir found toolchain cpus w
  · intro facts
    refine ⟨exists_build_eq_ok_iff, ?_, fun fault => build_eq_error_iff_firstWrong,
      fun facts' => build_congr⟩
    intro config hconfig
    have hreflects := ofFacts_eq_ok_iff_reflects.mp (build_eq_ok_iff.mp hconfig)
    exact ⟨hreflects, hreflects.one_le_cpus⟩

/-- Of two probes with which something is amiss, that with the lesser bytes is reported, and the
other is not run. -/
theorem stated_by_probes_of_two_amiss :
    let files := ((((({} : FileTree).put ["config"] .directory).put ["config", "b"]
      (.file [] 0o755)).put ["config", "a"] (.file [] 0o755)).put ["config", "README"]
      (.file [] 0o644)).put ["config", "CC"] (.file [] 0o700)
    let w : World Rehearsal :=
      { Rehearsal.start [("CC", [.output { stdout := " 'clang'\n" }]), ("a", [.spawnError]),
          ("b", [.output { exitCode := 1 }])] with files }
    ∃ names asked, (∀ name, name ∈ names ↔ files.HasProgram ["config"] name) ∧
      ComeTo "config" (probeAnswers Rehearsal.runner "config" names w)
        (.error (.probe "config/a" (.notStarted "not found"))) asked ∧
      asked.map (fun x => x.call.program) = ["config/CC", "config/a"] := by
  intro files w
  have hdistinct : files.Distinct :=
    ((((FileTree.distinct_empty.put _ _).put _ _).put _ _).put _ _).put _ _
  have hplace : Place.ofPath [] "config" = ["config"] := by decide
  have hlisting : files.listing? [] "config" =
      some [("b", .file [] 0o755), ("a", .file [] 0o755), ("README", .file [] 0o644),
        ("CC", .file [] 0o700)] := by
    decide
  have hsorted : sortedEntries ((files.listing? [] "config").getD []) =
      [("CC", .file [] 0o700), ("README", .file [] 0o644), ("a", .file [] 0o755),
        ("b", .file [] 0o755)] := by
    rw [hlisting]
    simp [sortedEntries, List.mergeSort]
  obtain ⟨⟨names, -, hnames, hcome⟩, -⟩ :=
    stated_by_probes Rehearsal.runner [] "config" {} 1 w hdistinct
  refine ⟨names, _, hplace ▸ hnames, (hcome _ _).mp ⟨?_, rfl⟩, ?_⟩
  · rw [probed, hsorted]
    decide +kernel
  · rw [probed, hsorted]
    decide +kernel

end Config

end Conformance
