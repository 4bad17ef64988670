import Conformance.Discovery
import Conformance.Proofs.Path
import Mathlib.Data.List.Nodup

/-!
# The entries of a directory of tests

What can be said of the entries of a directory before any catalog is made of them: which are test
programs and which are models, what a model is read as, and what is wrong with an entry in view of
those before it. Entries are acceptable together if nothing is wrong with any of them.

## Main definitions

* `DirEntry.isProgram`, `DirEntry.isModel`: the two roles that a file can have, one or both
* `DirEntry.Reads`: what a model is read as
* `Catalog.Acceptable`: the entries of which a catalog can be made
* `Catalog.Offends`: what is wrong with an entry, given those before it

## Main results

* `DirEntry.isModel_iff`, `DirEntry.testId_eq`: the role and the test name of a file by its name
* `Catalog.acceptable_concat_iff`: one more entry is acceptable exactly if nothing is wrong with it
* `Catalog.Offends.unique`, `Catalog.Offends.first_unique`: there is one fault, that of the first
  entry with which something is wrong
-/

namespace Conformance

namespace DirEntry

/-- The path of an entry of the directory `root`. -/
def path (root : Path) (e : DirEntry) : Path :=
  Path.join root e.1

/-- The name of the tests of an entry. -/
def testId (root : Path) (e : DirEntry) : String :=
  testName (e.path root)

/-- The entry is a test program: a file that may be executed. -/
def isProgram (e : DirEntry) : Bool :=
  e.2.isExecutable

/-- The entry is a model: a file with the extension of models. -/
def isModel (root : Path) (e : DirEntry) : Bool :=
  e.2 != .directory && Path.extension? (e.path root) == some modelExtension

/-- **What a model is read as**: its text, in which whatever is not UTF-8 is replaced, and the
expectations that are stated at the head of the text. -/
inductive Reads (root : Path) : DirEntry → TestInput → Prop
  | intro {name : String} {content : Bytes} {mode : Nat} {expectations : Expectations}
    (readable : ownerMayRead mode)
    (parsed : Expectations.parse (Text.decodeLossy content) = .ok expectations) :
    Reads root (name, .file content mode)
      ⟨Path.join root name, Text.decodeLossy content, expectations⟩

/-- An entry of some kind whose tests have the name of those of an earlier entry of the kind. -/
def Collides (root : Path) (kind : DirEntry → Bool) (earlier : List DirEntry) (e : DirEntry) :
    Prop :=
  kind e ∧ e.testId root ∈ (earlier.filter kind).map (testId root)

end DirEntry

open DirEntry

namespace Catalog

/-- **The entries of which a catalog can be made**: every model can be read and has no wrong
directive, and neither two programs nor two models have tests of the same name. -/
structure Acceptable (root : Path) (entries : List DirEntry) : Prop where
  legible : ∀ name content mode, (name, .file content mode) ∈ entries →
    isModel root (name, .file content mode) →
    ownerMayRead mode ∧ ∀ err, Expectations.parse (Text.decodeLossy content) ≠ .error err
  programs : ((entries.filter isProgram).map (testId root)).Nodup
  models : ((entries.filter (isModel root)).map (testId root)).Nodup

/-- **What is wrong with an entry**, given those before it, as the fault that it is reported by. Of
several things it is the first in this order: a program with a name that is taken, a model that
cannot be read, a wrong directive, and a model with a name that is taken. -/
inductive Offends (root : Path) (earlier : List DirEntry) : DirEntry → Fault → Prop
  | program {e : DirEntry} (collides : Collides root isProgram earlier e) :
    Offends root earlier e (.duplicateTest "executable" (e.testId root) (e.path root))
  | unreadable {name : String} {content : Bytes} {mode : Nat}
    (alone : ¬ Collides root isProgram earlier (name, .file content mode))
    (model : isModel root (name, .file content mode)) (denied : ¬ ownerMayRead mode) :
    Offends root earlier (name, .file content mode)
      (.unreadable "Permission denied (os error 13)")
  | directive {name : String} {content : Bytes} {mode : Nat} {err : Directive.Error}
    (alone : ¬ Collides root isProgram earlier (name, .file content mode))
    (model : isModel root (name, .file content mode)) (readable : ownerMayRead mode)
    (wrong : Expectations.parse (Text.decodeLossy content) = .error err) :
    Offends root earlier (name, .file content mode) (.directive (Path.join root name) err)
  | model {e : DirEntry} {input : TestInput} (alone : ¬ Collides root isProgram earlier e)
    (reads : Reads root e input) (collides : Collides root (isModel root) earlier e) :
    Offends root earlier e
      (.duplicateTest "checker_single_threaded" (e.testId root) (e.path root))

end Catalog

variable {root : Path} {e : DirEntry} {input : TestInput}

/-! ## The role of a file by its name -/

/-- **Models are the files whose name ends in `.m`**, with something before it. -/
theorem DirEntry.isModel_iff (h : Path.IsFileName e.1) (root : Path) :
    isModel root e ↔ e.2 ≠ .directory ∧ ∃ stem : String, stem ≠ "" ∧ e.1 = stem ++ ".m" := by
  have hextension := Path.extension?_join_eq_some_iff h root "m" (by decide)
  simp only [isModel, path, modelExtension, Bool.and_eq_true, bne_iff_ne, beq_iff_eq, hextension,
    String.append_assoc]
  rfl

/-- The name of the tests of an entry depends on its name only. -/
theorem DirEntry.testId_eq (h : Path.IsFileName e.1) (root : Path) :
    testId root e = "test_" ++ String.ofList (e.1.toList.map nameChar) := by
  rw [testId, testName, path, Path.lastName?_join h, Option.getD_some]

/-! ## Reading models -/

theorem DirEntry.Reads.path_eq (h : Reads root e input) : input.path = e.path root := by
  cases h with
  | intro readable parsed => rfl

theorem TestInput.load_of_reads {name : String} {content : Bytes} {mode : Nat}
    (h : Reads root (name, .file content mode) input) :
    load (Path.join root name) content mode = .ok input := by
  cases h with
  | intro readable parsed => rw [load, if_pos readable, ofSource, parsed]

theorem TestInput.load_of_denied {path : Path} {content : Bytes} {mode : Nat}
    (h : ¬ ownerMayRead mode) :
    load path content mode = .error (.unreadable "Permission denied (os error 13)") := by
  rw [load, if_neg h]

theorem TestInput.load_of_wrong {path : Path} {content : Bytes} {mode : Nat} {err : Directive.Error}
    (h : ownerMayRead mode) (hwrong : Expectations.parse (Text.decodeLossy content) = .error err) :
    load path content mode = .error (.directive path err) := by
  rw [load, if_pos h, ofSource, hwrong]

theorem DirEntry.Reads.parses {name : String} {content : Bytes} {mode : Nat}
    (h : Reads root (name, .file content mode) input) :
    ownerMayRead mode ∧
      Expectations.parse (Text.decodeLossy content) = .ok input.expectations := by
  cases h with
  | intro readable parsed => exact ⟨readable, parsed⟩

/-- **What can happen when a model is read.** -/
theorem DirEntry.reads_cases (root : Path) (name : String) (content : Bytes) (mode : Nat) :
    ¬ ownerMayRead mode ∨
      (ownerMayRead mode ∧ ∃ err, Expectations.parse (Text.decodeLossy content) = .error err) ∨
      ∃ input, Reads root (name, .file content mode) input := by
  by_cases hmode : ownerMayRead mode
  · right
    cases hparse : Expectations.parse (Text.decodeLossy content) with
    | error err => exact .inl ⟨hmode, err, rfl⟩
    | ok expectations => exact .inr ⟨_, .intro hmode hparse⟩
  · exact .inl hmode

theorem DirEntry.exists_file_of_isModel (h : isModel root e) :
    ∃ name content mode, e = (name, .file content mode) := by
  rcases e with ⟨name, _ | ⟨content, mode⟩⟩
  · simp [isModel] at h
  · exact ⟨name, content, mode, rfl⟩

/-! ## One more entry -/

namespace Catalog

variable {entries earlier earlier' later later' : List DirEntry} {e' : DirEntry}
  {fault fault' : Fault}

theorem nodup_testId_concat_iff (kind : DirEntry → Bool) :
    (((earlier ++ [e]).filter kind).map (testId root)).Nodup ↔
      ((earlier.filter kind).map (testId root)).Nodup ∧ ¬ Collides root kind earlier e := by
  rw [List.filter_append, List.map_append]
  by_cases hkind : kind e
  · rw [List.filter_singleton, hkind, cond_true, List.map_singleton, ← List.concat_eq_append,
      List.nodup_concat, and_comm]
    simp only [Collides, hkind, true_and]
  · simp [Collides, hkind]

theorem acceptable_nil : Acceptable root [] where
  legible := fun _ _ _ hmem => absurd hmem List.not_mem_nil
  programs := List.nodup_nil
  models := List.nodup_nil

theorem Acceptable.of_sublist (h : Acceptable root entries) (hsub : earlier.Sublist entries) :
    Acceptable root earlier where
  legible name content mode hmem := h.legible name content mode (hsub.subset hmem)
  programs := h.programs.sublist ((hsub.filter _).map _)
  models := h.models.sublist ((hsub.filter _).map _)

/-- Whether entries are acceptable is not a matter of their order. -/
theorem Acceptable.of_perm (h : Acceptable root entries) (hperm : entries.Perm earlier) :
    Acceptable root earlier where
  legible name content mode hmem := h.legible name content mode (hperm.mem_iff.mpr hmem)
  programs := ((hperm.filter _).map _).nodup_iff.mp h.programs
  models := ((hperm.filter _).map _).nodup_iff.mp h.models

/-- Nothing is wrong with the last of some acceptable entries. -/
theorem Acceptable.not_offends (h : Acceptable root (earlier ++ [e])) :
    ¬ Offends root earlier e fault := by
  intro hoff
  have hmem : e ∈ earlier ++ [e] := List.mem_append_right _ List.mem_cons_self
  cases hoff with
  | program hcollides => exact ((nodup_testId_concat_iff _).mp h.programs).2 hcollides
  | unreadable _ hmodel hdenied => exact hdenied (h.legible _ _ _ hmem hmodel).1
  | directive _ hmodel _ hwrong => exact (h.legible _ _ _ hmem hmodel).2 _ hwrong
  | model _ _ hcollides => exact ((nodup_testId_concat_iff _).mp h.models).2 hcollides

/-- A model with which nothing is wrong can be read. -/
theorem exists_reads_of_not_offends (hno : ∀ fault, ¬ Offends root earlier e fault)
    (hmodel : isModel root e) : ∃ input, Reads root e input := by
  have halone : ¬ Collides root isProgram earlier e := fun hc => hno _ (.program hc)
  obtain ⟨name, content, mode, rfl⟩ := exists_file_of_isModel hmodel
  rcases reads_cases root name content mode with hdenied | ⟨hmode, err, hwrong⟩ | hreads
  · exact absurd (.unreadable halone hmodel hdenied) (hno _)
  · exact absurd (.directive halone hmodel hmode hwrong) (hno _)
  · exact hreads

theorem Acceptable.concat (h : Acceptable root earlier)
    (halone : ¬ Collides root isProgram earlier e)
    (hreads : isModel root e → ∃ input, Reads root e input)
    (hdistinct : ¬ Collides root (isModel root) earlier e) : Acceptable root (earlier ++ [e]) where
  legible := by
    intro name content mode hmem hmodel
    rcases List.mem_append.mp hmem with hmem | hmem
    · exact h.legible name content mode hmem hmodel
    · obtain rfl := List.mem_singleton.mp hmem
      obtain ⟨input, hinput⟩ := hreads hmodel
      exact ⟨hinput.parses.1, fun err herr => by simp [hinput.parses.2] at herr⟩
  programs := (nodup_testId_concat_iff _).mpr ⟨h.programs, halone⟩
  models := (nodup_testId_concat_iff _).mpr ⟨h.models, hdistinct⟩

/-- **One more entry is acceptable exactly if nothing is wrong with it.** -/
theorem acceptable_concat_iff :
    Acceptable root (earlier ++ [e]) ↔
      Acceptable root earlier ∧ ∀ fault, ¬ Offends root earlier e fault := by
  constructor
  · exact fun h => ⟨h.of_sublist (List.sublist_append_left _ _), fun _ => h.not_offends⟩
  · rintro ⟨h, hno⟩
    have halone : ¬ Collides root isProgram earlier e := fun hc => hno _ (.program hc)
    refine h.concat halone (exists_reads_of_not_offends hno) fun hc => ?_
    obtain ⟨input, hreads⟩ := exists_reads_of_not_offends hno hc.1
    exact hno _ (.model halone hreads hc)

/-! ## The fault -/

/-- An entry offends in one way only. -/
theorem Offends.unique (h : Offends root earlier e fault) (h' : Offends root earlier e fault') :
    fault = fault' := by
  cases h with
  | program hc =>
    cases h' with
    | program => rfl
    | unreadable halone | directive halone | model halone => exact absurd hc halone
  | unreadable halone _ hdenied =>
    cases h' with
    | program hc => exact absurd hc halone
    | unreadable => rfl
    | directive _ _ hmode => exact absurd hmode hdenied
    | model _ hreads => exact absurd hreads.parses.1 hdenied
  | directive halone _ hmode hwrong =>
    cases h' with
    | program hc => exact absurd hc halone
    | unreadable _ _ hdenied => exact absurd hmode hdenied
    | directive _ _ _ hwrong' => simp_all
    | model _ hreads => simp [hreads.parses.2] at hwrong
  | model halone hreads _ =>
    cases h' with
    | program hc => exact absurd hc halone
    | unreadable _ _ hdenied => exact absurd hreads.parses.1 hdenied
    | directive _ _ _ hwrong => simp [hreads.parses.2] at hwrong
    | model => rfl

/-- An offending entry is not followed by acceptable ones. -/
theorem Offends.not_acceptable (h : Offends root earlier e fault) :
    ¬ Acceptable root (earlier ++ e :: later) := by
  intro hacc
  rw [List.append_cons] at hacc
  exact (hacc.of_sublist (List.sublist_append_left _ _)).not_offends h

/-- **Some entries have one fault at most**: that of the first offending entry. -/
theorem Offends.first_unique (heq : earlier ++ e :: later = earlier' ++ e' :: later')
    (hacc : Acceptable root earlier) (h : Offends root earlier e fault)
    (hacc' : Acceptable root earlier') (h' : Offends root earlier' e' fault') : fault = fault' := by
  rcases List.append_eq_append_iff.mp heq with ⟨between, rfl, hrest⟩ | ⟨between, rfl, hrest⟩
  · cases between with
    | nil =>
      obtain ⟨rfl, rfl⟩ := List.cons.inj hrest
      rw [List.append_nil] at h'
      exact h.unique h'
    | cons _ between =>
      -- the second entry would stand behind the first, among acceptable ones
      obtain ⟨rfl, -⟩ := List.cons.inj hrest
      exact absurd hacc' h.not_acceptable
  · cases between with
    | nil =>
      obtain ⟨rfl, rfl⟩ := List.cons.inj hrest
      rw [List.append_nil] at h
      exact h.unique h'
    | cons _ between =>
      obtain ⟨rfl, -⟩ := List.cons.inj hrest
      exact absurd hacc h'.not_acceptable

end Catalog

end Conformance
