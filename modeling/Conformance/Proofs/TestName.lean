import Conformance.Job
import Conformance.Proofs.Path
import Mathlib.Data.List.Forall2

/-!
# The name of a test

A test is named after the file that its path leads to, however the path is written: the directory
does not count, nor do slashes and single dots at the end. The name of the file is mangled one
character at a time, so that only characters that are neither letters nor digits of ASCII are
confused with each other.

## Main definitions

* `Path.Trailing`: what may stand behind the last component of a path
* `Path.FileName`: a path and the name of the file that it leads to
* `Indistinct`: two characters that a test name does not tell apart

## Main results

* `Path.fileName_iff`: every path leads to a file by one name
* `test_named_after_file`: which name a test has, and which tests have the same name
-/

namespace Conformance

/-! ## Files -/

namespace Path

/-- **What may stand behind the last component of a path**: slashes and single dots. -/
inductive Trailing : List Char → Prop
  | nil : Trailing []
  | slash {rest : List Char} (h : Trailing rest) : Trailing ('/' :: rest)
  | current {rest : List Char} (h : Trailing rest) : Trailing ('/' :: '.' :: rest)

/-- What may stand before a component of a path. -/
def Front (dir : List Char) : Prop :=
  dir = [] ∨ ∃ before, dir = before ++ ['/']

/-- **A path and the name of the file that it leads to.** The name is empty where there is none: in
a parent directory, at the start of a path, and in the current directory. -/
inductive FileName : List Char → List Char → Prop
  | named {dir rest : List Char} {name : String} (hdir : Front dir) (hname : IsFileName name)
    (hrest : Trailing rest) : FileName (dir ++ (name.toList ++ rest)) name.toList
  | parent {dir rest : List Char} (hdir : Front dir) (hrest : Trailing rest) :
    FileName (dir ++ (['.', '.'] ++ rest)) []
  | start {rest : List Char} (hrest : Trailing rest) : FileName rest []
  | current {rest : List Char} (hrest : Trailing rest) : FileName (['.'] ++ rest) []

variable {dir path piece name rest rest' : List Char}

theorem Trailing.append (h : Trailing rest) (h' : Trailing rest') : Trailing (rest ++ rest') := by
  induction h with
  | nil => exact h'
  | slash _ ih => exact ih.slash
  | current _ ih => exact ih.current

/-- What stands behind the last component is no component. -/
theorem Trailing.components_append (h : Trailing rest) (path : List Char) :
    components (path ++ rest) = components path := by
  induction h generalizing path with
  | nil => rw [List.append_nil]
  | slash _ ih =>
    -- the slash belongs to the path in front of what is left
    rw [List.append_cons, ih, components_append_slash]
    exact List.append_nil _
  | current _ ih =>
    rw [List.append_cons, List.append_cons, ih, List.append_assoc, List.singleton_append,
      components_append_slash]
    exact List.append_nil _

theorem Front.components_append (h : Front dir) (path : List Char) :
    components (dir ++ path) = components dir ++ components path := by
  rcases h with rfl | ⟨before, rfl⟩
  · rfl
  · rw [Trailing.nil.slash.components_append, List.append_assoc, List.singleton_append,
      components_append_slash]

/-- A component with nothing but slashes and single dots behind it is the last one. -/
theorem components_around (hdir : Front dir) (hrest : Trailing rest)
    (h : components piece = [piece]) :
    components (dir ++ (piece ++ rest)) = components dir ++ [piece] := by
  rw [hdir.components_append, hrest.components_append, h]

/-- A path leads to a file by no other name than that of its last component. -/
theorem FileName.eq_lastName? (h : FileName path name) : name = (lastName? path).getD [] := by
  cases h with
  | named hdir hname hrest =>
    have hlast := components_around hdir hrest hname.components_eq
    rw [lastName?_of_components _ hlast hname.toList_ne.2.2]
    rfl
  | parent hdir hrest =>
    have hpiece : components ['.', '.'] = [['.', '.']] := rfl
    rw [lastName?, components_around hdir hrest hpiece, List.getLast?_concat]
    rfl
  | start hrest =>
    -- all that there is trails behind the empty path
    have hnone : components path = [] := hrest.components_append []
    rw [lastName?, hnone]
    rfl
  | current hrest =>
    rw [lastName?, hrest.components_append]
    rfl

/-- Slashes and single dots at the end of a path do not count. -/
theorem FileName.append (h : FileName path name) (ht : Trailing rest) :
    FileName (path ++ rest) name := by
  cases h with
  | named hdir hname hrest =>
    rw [List.append_assoc, List.append_assoc]
    exact .named hdir hname (hrest.append ht)
  | parent hdir hrest =>
    rw [List.append_assoc, List.append_assoc]
    exact .parent hdir (hrest.append ht)
  | start hrest => exact .start (hrest.append ht)
  | current hrest =>
    rw [List.append_assoc]
    exact .current (hrest.append ht)

/-- A piece that leads to a file, or out of the directory that stands before it. -/
theorem Front.exists_fileName (hdir : Front dir) (hslash : '/' ∉ piece) (hne : piece ≠ [])
    (hcurrent : piece ≠ ['.']) : ∃ name, FileName (dir ++ piece) name := by
  rw [← List.append_nil piece]
  by_cases hparent : piece = ['.', '.']
  · subst hparent
    exact ⟨[], .parent hdir .nil⟩
  · have hname : IsFileName (String.ofList piece) := by
      constructor <;> simpa [← String.toList_inj]
    refine ⟨piece, ?_⟩
    simpa using FileName.named hdir hname .nil

/-- Every path leads to a file, if perhaps by no name. -/
theorem exists_fileName (path : List Char) : ∃ name, FileName path name := by
  by_cases hslash : '/' ∈ path
  · obtain ⟨before, piece, hpath, hpiece⟩ := exists_last_occurrence hslash
    have hshorter : before.length < path.length := by simp [hpath]
    rw [hpath]
    -- where the last piece does not count, the name is that of what stands before it
    by_cases hempty : piece = []
    · subst hempty
      obtain ⟨name, h⟩ := exists_fileName before
      exact ⟨name, h.append Trailing.nil.slash⟩
    · by_cases hcurrent : piece = ['.']
      · subst hcurrent
        obtain ⟨name, h⟩ := exists_fileName before
        exact ⟨name, h.append Trailing.nil.current⟩
      · rw [List.append_cons]
        exact Front.exists_fileName (.inr ⟨before, rfl⟩) hpiece hempty hcurrent
  · by_cases hempty : path = []
    · exact ⟨[], hempty ▸ .start .nil⟩
    · by_cases hcurrent : path = ['.']
      · exact ⟨[], hcurrent ▸ .current .nil⟩
      · exact Front.exists_fileName (.inl rfl) hslash hempty hcurrent
termination_by path.length

/-- **The name of the file that a path leads to** is that of its last component. -/
theorem fileName_iff : FileName path name ↔ name = (lastName? path).getD [] := by
  constructor
  · exact FileName.eq_lastName?
  · rintro rfl
    obtain ⟨name, h⟩ := exists_fileName path
    exact h.eq_lastName? ▸ h

end Path

/-! ## Mangling -/

/-- **Two characters that a test name does not tell apart**: the same letter or digit of ASCII, or
neither of them one. -/
def Indistinct (a b : Char) : Prop :=
  a.isAlphanum = true ∧ a = b ∨ a.isAlphanum = false ∧ b.isAlphanum = false

theorem isAsciiLetter_or_isAsciiDigit (c : Char) :
    (Text.isAsciiLetter c || Text.isAsciiDigit c) = c.isAlphanum := by
  have hlower : (decide ('a' ≤ c) && decide (c ≤ 'z')) = c.isLower := rfl
  have hupper : (decide ('A' ≤ c) && decide (c ≤ 'Z')) = c.isUpper :=
    (Bool.decide_and ('A' ≤ c) (c ≤ 'Z')).symm
  have hdigit : Text.isAsciiDigit c = c.isDigit := rfl
  rw [Text.isAsciiLetter, hlower, hupper, hdigit, Bool.or_comm c.isLower]
  rfl

theorem nameChar_of_isAlphanum {c : Char} (h : c.isAlphanum = true) : nameChar c = c := by
  rw [nameChar, isAsciiLetter_or_isAsciiDigit, if_pos h]

theorem nameChar_of_not_isAlphanum {c : Char} (h : c.isAlphanum = false) : nameChar c = '_' := by
  rw [nameChar, isAsciiLetter_or_isAsciiDigit, h]
  rfl

/-- An underscore stands for no letter and no digit. -/
theorem nameChar_eq_underscore_iff {c : Char} : nameChar c = '_' ↔ c.isAlphanum = false := by
  constructor
  · intro h
    by_contra hc
    rw [Bool.not_eq_false] at hc
    rw [nameChar_of_isAlphanum hc] at h
    subst h
    exact absurd hc (by decide)
  · exact nameChar_of_not_isAlphanum

/-- Characters are mangled to the same exactly if a test name does not tell them apart. -/
theorem nameChar_eq_nameChar_iff {a b : Char} : nameChar a = nameChar b ↔ Indistinct a b := by
  rw [Indistinct]
  rcases Bool.eq_false_or_eq_true a.isAlphanum with ha | ha
  · rcases Bool.eq_false_or_eq_true b.isAlphanum with hb | hb
    · simp [nameChar_of_isAlphanum, ha, hb]
    · -- a letter or digit is kept, and so it is no underscore
      rw [nameChar_of_not_isAlphanum hb, nameChar_eq_underscore_iff]
      constructor
      · intro h
        exact .inr ⟨h, hb⟩
      · rintro (⟨-, rfl⟩ | ⟨h, -⟩)
        · exact hb
        · exact h
  · rw [nameChar_of_not_isAlphanum ha, eq_comm, nameChar_eq_underscore_iff]
    simp [ha]

/-! ## The name of a test -/

theorem toList_testName {path : Path} {name : List Char} (h : Path.FileName path.toList name) :
    (testName path).toList = "test_".toList ++ name.map nameChar := by
  rw [testName, ← h.eq_lastName?]
  simp

/-- The directory that a file is in does not count for the name of its test. -/
theorem testName_append (dir : String) {name : String} (h : Path.IsFileName name) :
    testName (dir ++ "/" ++ name) = testName name := by
  have hname : Path.lastName? (dir ++ "/" ++ name).toList = some name.toList := by
    rw [String.toList_append, String.toList_append, List.append_assoc]
    exact Path.lastName?_append h dir.toList
  rw [testName, testName, hname, Path.lastName?_of_isFileName h]

/-- **Which tests have the same name**: those of files whose names do not differ in their letters
and digits, nor in where these stand. -/
theorem testName_eq_iff {p q : Path} {m n : List Char} (hp : Path.FileName p.toList m)
    (hq : Path.FileName q.toList n) : testName p = testName q ↔ List.Forall₂ Indistinct m n := by
  rw [← String.toList_inj, toList_testName hp, toList_testName hq, List.append_cancel_left_eq,
    ← List.forall₂_eq_eq_eq, List.forall₂_map_left_iff, List.forall₂_map_right_iff]
  simp only [nameChar_eq_nameChar_iff]

/-- **A test is named after the file that its path leads to.** Behind `test_` stands one character
for each of the name of the file, the same one for a letter or digit of ASCII and an underscore for
any other; so there are no other characters in the name. The directory does not count. The names of
two tests are the same exactly if those of the files are of one length and have at every place the
same letter or digit, or neither. -/
theorem test_named_after_file :
    (∀ path : Path, ∃ name mangled : List Char,
      (∀ other, Path.FileName path.toList other ↔ other = name) ∧
      (testName path).toList = "test_".toList ++ mangled ∧
      List.Forall₂ (fun c s => if c.isAlphanum = true then s = c else s = '_') name mangled ∧
      ∀ s ∈ (testName path).toList, s.isAlphanum = true ∨ s = '_') ∧
    (∀ dir name, Path.IsFileName name → testName (dir ++ "/" ++ name) = testName name) ∧
    (∀ p q m n, Path.FileName p.toList m → Path.FileName q.toList n →
      (testName p = testName q ↔ List.Forall₂ Indistinct m n)) := by
  refine ⟨fun path => ?_, fun dir name => testName_append dir, fun p q m n => testName_eq_iff⟩
  obtain ⟨name, h⟩ := Path.exists_fileName path.toList
  refine ⟨name, name.map nameChar, fun other => ?_, toList_testName h, ?_, ?_⟩
  · rw [Path.fileName_iff, ← h.eq_lastName?]
  · rw [List.forall₂_map_right_iff, List.forall₂_same]
    intro c _
    split
    · next hc => exact nameChar_of_isAlphanum hc
    · next hc => exact nameChar_of_not_isAlphanum (Bool.not_eq_true _ ▸ hc)
  · intro s hs
    rw [toList_testName h, List.mem_append, List.mem_map] at hs
    rcases hs with hs | ⟨c, -, rfl⟩
    · have hprefix : s = 't' ∨ s = 'e' ∨ s = 's' ∨ s = 't' ∨ s = '_' := by simpa using hs
      rcases hprefix with rfl | rfl | rfl | rfl | rfl <;> decide
    · rcases Bool.eq_false_or_eq_true c.isAlphanum with hc | hc
      · exact .inl ((nameChar_of_isAlphanum hc).symm ▸ hc)
      · exact .inr (nameChar_of_not_isAlphanum hc)

example : ["", ".", "/", "models/.."].map testName = List.replicate 4 "test_" := by decide

example : testName "models/a-b.m/./" = testName "a_b.m" := by decide

end Conformance
