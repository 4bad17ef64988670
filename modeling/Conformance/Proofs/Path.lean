import Conformance.Path
import Conformance.Proofs.Text.Lines
import Mathlib.Data.List.TakeWhile
import Mathlib.Tactic.SplitIfs

/-!
# The name of a file and its path

The path of a file in a directory ends with the name of the file, however the path of the directory
is written. Its extension stands behind the last dot of the name, if something stands before it.

## Main definitions

* `Path.IsFileName`: the names that a directory can have for its entries

## Main results

* `Path.lastName?_join`: the last component of the path of a file is its name
* `Path.nameExtension?_eq_some_iff`: which extension a name has
* `Path.extension?_join_eq_some_iff`: which extension a file in a directory has
-/

namespace Conformance.Path

/-- **A name that a directory can have for an entry**: neither the directory itself nor the one
above it, and in the directory itself and not below it. -/
structure IsFileName (name : String) : Prop where
  ne_empty : name ≠ ""
  noSlash : '/' ∉ name.toList
  ne_current : name ≠ "."
  ne_parent : name ≠ ".."

variable {name : String} {piece stem ext : List Char}

/-! ## The last component -/

/-- A piece of a path that counts and leads downwards. -/
theorem IsFileName.toList_ne (h : IsFileName name) :
    name.toList ≠ [] ∧ name.toList ≠ ['.'] ∧ name.toList ≠ ['.', '.'] := by
  refine ⟨fun heq => h.ne_empty ?_, fun heq => h.ne_current ?_, fun heq => h.ne_parent ?_⟩
  all_goals
    rw [← String.toList_inj, heq]
    rfl

/-- The components on both sides of a slash. -/
theorem components_append_slash (cs rest : List Char) :
    components (cs ++ '/' :: rest) = components cs ++ components rest := by
  rw [components, Text.splitAt_append_cons, List.filter_append]
  rfl

/-- A piece of a path that counts is a component. -/
theorem components_of_piece (hslash : '/' ∉ piece) (hne : piece ≠ []) (hcurrent : piece ≠ ['.']) :
    components piece = [piece] := by
  rw [components, Text.splitAt_of_notMem hslash]
  simp [hne, hcurrent]

theorem IsFileName.components_eq (h : IsFileName name) : components name.toList = [name.toList] :=
  components_of_piece h.noSlash h.toList_ne.1 h.toList_ne.2.1

theorem lastName?_of_components {path : List Char} (before : List (List Char))
    (h : components path = before ++ [piece]) (hne : piece ≠ ['.', '.']) :
    lastName? path = some piece := by
  rw [lastName?, h, List.getLast?_concat]
  split
  · next heq => exact absurd (Option.some.inj heq) hne
  · rfl

theorem lastName?_of_isFileName (h : IsFileName name) :
    lastName? name.toList = some name.toList :=
  lastName?_of_components [] h.components_eq h.toList_ne.2.2

theorem lastName?_append (h : IsFileName name) (path : List Char) :
    lastName? (path ++ '/' :: name.toList) = some name.toList := by
  refine lastName?_of_components (components path) ?_ h.toList_ne.2.2
  rw [components_append_slash, h.components_eq]

/-- **The last component of the path of a file is its name.** -/
theorem lastName?_join (h : IsFileName name) (base : Path) :
    lastName? (join base name).toList = some name.toList := by
  unfold join
  split
  · next hslash => exact absurd (List.mem_of_mem_head? hslash) h.noSlash
  · exact lastName?_of_isFileName h
  · next hlast _ =>
    -- the slash that the base ends with separates the two
    obtain ⟨before, hbase⟩ := List.getLast?_eq_some_iff.mp hlast
    rw [String.toList_append, hbase, List.append_assoc]
    exact lastName?_append h before
  · rw [String.toList_append, String.toList_append, List.append_assoc]
    exact lastName?_append h base.toList

/-! ## Extensions -/

/-- What stands before and behind the last occurrence of a character. -/
theorem exists_last_occurrence {c : Char} {cs : List Char} (h : c ∈ cs) :
    ∃ before behind, cs = before ++ c :: behind ∧ c ∉ behind := by
  obtain ⟨behind, before, hsplit, hlast⟩ := List.eq_append_cons_of_mem (List.mem_reverse.mpr h)
  refine ⟨before.reverse, behind.reverse, ?_, by rwa [List.mem_reverse]⟩
  rw [← List.reverse_reverse cs, hsplit]
  simp

theorem nameExtension?_of_notMem {name : List Char} (h : '.' ∉ name) :
    nameExtension? name = none := by
  have hdrop : name.reverse.dropWhile (· ≠ '.') = [] := by
    rw [List.dropWhile_eq_nil_iff]
    exact fun c hc => decide_eq_true fun heq => h (heq ▸ List.mem_reverse.mp hc)
  simp only [nameExtension?, hdrop, List.drop_nil, List.isEmpty_nil, if_true]

theorem nameExtension?_append (h : '.' ∉ ext) (stem : List Char) :
    nameExtension? (stem ++ '.' :: ext) = if stem = [] then none else some ext := by
  have hext : ∀ c ∈ ext.reverse, decide (c ≠ '.') := fun c hc =>
    decide_eq_true fun heq => h (heq ▸ List.mem_reverse.mp hc)
  rw [nameExtension?, List.reverse_append, List.reverse_cons, List.append_assoc,
    List.takeWhile_append_of_pos hext, List.dropWhile_append_of_pos hext]
  simp

/-- **The extension of a name** stands behind its last dot, and there is a stem before the dot. -/
theorem nameExtension?_eq_some_iff {name : List Char} :
    nameExtension? name = some ext ↔ ∃ stem, stem ≠ [] ∧ '.' ∉ ext ∧ name = stem ++ '.' :: ext := by
  constructor
  · intro h
    by_cases hdot : '.' ∈ name
    · obtain ⟨stem, behind, rfl, hlast⟩ := exists_last_occurrence hdot
      rw [nameExtension?_append hlast] at h
      split_ifs at h with hstem
      obtain rfl := Option.some.inj h
      exact ⟨stem, hstem, hlast, rfl⟩
    · rw [nameExtension?_of_notMem hdot] at h
      exact absurd h (Option.some_ne_none _).symm
  · rintro ⟨stem, hne, hdot, rfl⟩
    rw [nameExtension?_append hdot, if_neg hne]

/-- **The extension of a file in a directory.** -/
theorem extension?_join_eq_some_iff (h : IsFileName name) (base : Path) (ext : String)
    (hdot : '.' ∉ ext.toList) :
    extension? (join base name) = some ext ↔
      ∃ stem : String, stem ≠ "" ∧ name = stem ++ "." ++ ext := by
  rw [extension?, lastName?_join h, Option.bind_some, Option.map_eq_some_iff]
  constructor
  · rintro ⟨found, hfound, rfl⟩
    obtain ⟨stem, hne, -, hname⟩ := nameExtension?_eq_some_iff.mp hfound
    refine ⟨String.ofList stem, ?_, ?_⟩
    · rwa [Ne, ← String.toList_inj, String.toList_ofList]
    · rw [← String.toList_inj, hname]
      simp
  · rintro ⟨stem, hne, rfl⟩
    refine ⟨ext.toList, nameExtension?_eq_some_iff.mpr ⟨stem.toList, ?_, hdot, ?_⟩,
      String.ofList_toList⟩
    · rwa [Ne, String.toList_eq_nil_iff]
    · simp

end Conformance.Path
