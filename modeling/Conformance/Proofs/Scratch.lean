import Conformance.Proofs.FileTree
import Conformance.Proofs.Path
import Conformance.Proofs.Stages
import Mathlib.Data.List.Induction

/-!
# Files of a scratch directory

The files of a job are named by their paths in its scratch directory. Such a path leads to the file,
from wherever a process that is given it starts, and so what a stage finds there is what was written
for it.

## Main definitions

* `World.scratch`: the place of the scratch directory
* `World.Handed`: a world in which nothing was done but to write a text into a file

## Main results

* `Path.components_placePath`, `Place.ofPath_placePath`: the path of a place leads there
* `World.ofPath_scratchPath`: the path of a file of a job leads to it
* `Stage.handed_enter`: a stage with a file finds the text before it there
-/

namespace Conformance

variable {σ : Type}

/-! ## Paths of places -/

namespace Path

variable {name : String} {p : Place}

theorem placePath_concat (p : Place) (name : String) :
    Job.placePath (p ++ [name]) = Job.placePath p ++ ("/" ++ name) := by
  simp [Job.placePath]

/-- **The components of the path of a place** are the names that lead there. -/
theorem components_placePath (hp : ∀ n ∈ p, IsFileName n) :
    components (Job.placePath p).toList = p.map String.toList := by
  induction p using List.reverseRecOn with
  | nil => rfl
  | append_singleton p name ih =>
    have hname : IsFileName name := hp name (by simp)
    rw [placePath_concat, String.toList_append, String.toList_append]
    change components ((Job.placePath p).toList ++ '/' :: name.toList) = _
    rw [components_append_slash, hname.components_eq, ih fun n hn => hp n (by simp [hn])]
    simp

/-- The path of a place does not end with a slash. -/
theorem exists_getLast?_placePath (hne : p ≠ []) (hp : ∀ n ∈ p, IsFileName n) :
    ∃ c, c ≠ '/' ∧ (Job.placePath p).toList.getLast? = some c := by
  obtain ⟨q, last, rfl⟩ := (List.eq_nil_or_concat' p).resolve_left hne
  have hlast : IsFileName last := hp last (by simp)
  obtain ⟨c, hc⟩ :=
    Option.ne_none_iff_exists'.mp (mt List.getLast?_eq_none_iff.mp hlast.toList_ne.1)
  refine ⟨c, fun heq => hlast.noSlash (heq ▸ List.mem_of_getLast? hc), ?_⟩
  rw [placePath_concat, String.toList_append, String.toList_append, ← List.append_assoc,
    List.getLast?_append, hc]
  rfl

/-- The path of a file in a directory is that of its place. -/
theorem join_placePath (hne : p ≠ []) (hp : ∀ n ∈ p, IsFileName n) (hname : IsFileName name) :
    join (Job.placePath p) name = Job.placePath (p ++ [name]) := by
  obtain ⟨c, hc, hlast⟩ := exists_getLast?_placePath hne hp
  rw [placePath_concat, join, hlast]
  split
  · next hslash => exact absurd (List.mem_of_mem_head? hslash) hname.noSlash
  · contradiction
  · next hslash _ => exact absurd (Option.some.inj hslash) hc
  · rw [String.append_assoc]

end Path

/-- **The path of a place leads there**, from wherever one starts. -/
theorem Place.ofPath_placePath {p : Place} (current : Place) (hne : p ≠ [])
    (hp : ∀ n ∈ p, Path.IsFileName n) : ofPath current (Job.placePath p) = p := by
  have hhead : (Job.placePath p).toList.head? = some '/' := by
    obtain ⟨name, rest, rfl⟩ := List.exists_cons_of_ne_nil hne
    simp [Job.placePath]
  have hfold : ∀ (q : Place), (∀ n ∈ q, Path.IsFileName n) → ∀ start : Place,
      (q.map String.toList).foldl (fun at' name =>
        if name = ['.', '.'] then at'.dropLast else at' ++ [String.ofList name]) start =
          start ++ q := by
    intro q hq
    induction q with
    | nil => simp
    | cons name q ih =>
      intro start
      have hparent := (hq name List.mem_cons_self).toList_ne.2.2
      rw [List.map_cons, List.foldl_cons, if_neg hparent, String.ofList_toList,
        ih fun n hn => hq n (List.mem_cons_of_mem _ hn), List.append_assoc, List.singleton_append]
  simp only [ofPath, hhead, if_true, Path.components_placePath hp]
  exact hfold p hp []

/-! ## Files of a scratch directory -/

/-- The directory in which a job that is performed in this world has its files. -/
def World.scratch (w : World σ) : Place :=
  Job.scratchParent ++ [w.files.freshName Job.scratchParent]

theorem Path.isFileName_scratchName (n : Nat) : IsFileName (FileTree.scratchName n) := by
  have htoList :
      (FileTree.scratchName n).toList = "rumur-harness-".toList ++ Nat.toDigits 10 n := by
    simp [FileTree.scratchName]
  have hne : ∀ s : String, s.toList.length < 14 → FileTree.scratchName n ≠ s := by
    rintro s hs rfl
    rw [htoList, List.length_append] at hs
    exact absurd (Nat.le_add_right 14 _) (Nat.not_le.mpr hs)
  refine ⟨hne _ (by decide), ?_, hne _ (by decide), hne _ (by decide)⟩
  rw [htoList, List.mem_append]
  rintro (h | h)
  · simp at h
  · have hdigit : '/'.isDigit = true := Nat.isDigit_of_mem_toDigits (by decide) (by decide) h
    contradiction

theorem World.isFileName_of_mem_scratch (w : World σ) : ∀ n ∈ w.scratch, Path.IsFileName n := by
  obtain ⟨k, hname, -⟩ := w.files.exists_freshName Job.scratchParent
  intro n hn
  obtain rfl | rfl : n = "tmp" ∨ n = w.files.freshName Job.scratchParent := by
    simpa [World.scratch, Job.scratchParent] using hn
  · constructor <;> decide
  · rw [hname]
    exact Path.isFileName_scratchName k

/-- **The path of a file of a job leads to it**, from wherever one starts. -/
theorem World.ofPath_scratchPath (w : World σ) {name : String} (hname : Path.IsFileName name)
    (current : Place) :
    Place.ofPath current (Path.join w.scratchPath name) = w.scratch ++ [name] := by
  have hne : w.scratch ≠ [] := by simp [World.scratch]
  have hp := w.isFileName_of_mem_scratch
  change Place.ofPath current (Path.join (Job.placePath w.scratch) name) = _
  rw [Path.join_placePath hne hp hname]
  refine Place.ofPath_placePath current (by simp) fun n hn => ?_
  rcases List.mem_append.mp hn with hn | hn
  · exact hp n hn
  · rw [List.mem_singleton.mp hn]
    exact hname

/-- **A text was handed over in a file**: the file at the path holds the bytes of the text, and
everything else in the world is as it was left. -/
structure World.Handed (left : World σ) (path : Path) (text : String) (now : World σ) : Prop where
  holds : ∀ current, ∃ mode,
    now.files.find? (Place.ofPath current path) = some (.file (Text.encode text) mode)
  elsewhere : ∀ current place, place ≠ Place.ofPath current path →
    now.files.find? place = left.files.find? place
  state : now.state = left.state

theorem Stage.handed_enter {s : Stage} {name : String} (hfile : s.file? = some name)
    (hname : Path.IsFileName name) (w : World σ) (text : String) (left : World σ) :
    left.Handed (Path.join w.scratchPath name) text (s.enter w.scratch text left) where
  holds current := by
    rw [w.ofPath_scratchPath hname, enter, hfile]
    exact ⟨_, by rw [FileTree.find?_write _ (by simp), if_pos rfl]⟩
  elsewhere current place hplace := by
    rw [w.ofPath_scratchPath hname] at hplace
    rw [enter, hfile]
    exact FileTree.find?_write_of_ne _ hplace _
  state := s.enter_state ..

end Conformance
