import Conformance.Dictionary
import Mathlib.Data.List.Nodup
import Mathlib.Data.String.Basic
import Mathlib.Tactic.SplitIfs

/-!
# Dictionaries in order

The entries of a dictionary stand in ascending order of their names, so that no name stands twice
and the value of a name is that of its only entry. Giving a name a value keeps them so.

## Main definitions

* `Dictionary.Ascending`: the names of a dictionary ascend

## Main results

* `Dictionary.Ascending.insert`: a name may be given a value
* `Dictionary.Ascending.mem_iff`: the entries are the names with their values
* `Dictionary.Ascending.ofList_eq`: entries whose names ascend are the dictionary of themselves
-/

namespace Conformance.Dictionary

variable {α : Type} {d : Dictionary α} {k : String} {v : α}

/-- The names ascend; so no two entries have the same name. -/
def Ascending (d : Dictionary α) : Prop :=
  d.Pairwise fun e e' => e.1 < e'.1

instance : DecidablePred (Ascending (α := α)) := fun d =>
  inferInstanceAs (Decidable (d.Pairwise fun e e' => e.1 < e'.1))

theorem ascending_nil : Ascending ([] : Dictionary α) :=
  .nil

theorem eq_or_mem_of_mem_insert {e : String × α} (h : e ∈ insert k v d) :
    e = (k, v) ∨ e ∈ d := by
  induction d with
  | nil => simpa [insert] using h
  | cons e' d ih =>
    obtain ⟨k', v'⟩ := e'
    rw [insert] at h
    split_ifs at h with heq hlt
    · rcases List.mem_cons.mp h with rfl | hmem
      · exact .inl rfl
      · exact .inr (List.mem_cons_of_mem _ hmem)
    · exact List.mem_cons.mp h
    · rcases List.mem_cons.mp h with rfl | hmem
      · exact .inr List.mem_cons_self
      · exact (ih hmem).imp_right (List.mem_cons_of_mem _)

/-- **A name may be given a value**, be it new or not. -/
theorem Ascending.insert (h : d.Ascending) (k : String) (v : α) : (d.insert k v).Ascending := by
  induction d with
  | nil => exact List.pairwise_singleton _ _
  | cons e d ih =>
    obtain ⟨k', v'⟩ := e
    obtain ⟨hfirst, hrest⟩ := List.pairwise_cons.mp h
    rw [Dictionary.insert]
    split_ifs with heq hlt
    · subst heq
      exact List.pairwise_cons.mpr ⟨hfirst, hrest⟩
    · refine List.pairwise_cons.mpr ⟨fun e he => ?_, h⟩
      rcases List.mem_cons.mp he with rfl | hmem
      · exact hlt
      · exact hlt.trans (hfirst e hmem)
    · -- the name belongs further back, behind one that is less
      refine List.pairwise_cons.mpr ⟨fun e he => ?_, ih hrest⟩
      rcases eq_or_mem_of_mem_insert he with rfl | hmem
      · exact lt_of_le_of_ne (not_lt.mp hlt) (Ne.symm heq)
      · exact hfirst e hmem

/-- **The entries are the names with their values.** -/
theorem Ascending.mem_iff (h : d.Ascending) : (k, v) ∈ d ↔ d.get? k = some v := by
  induction d with
  | nil => simp
  | cons e d ih =>
    obtain ⟨k', v'⟩ := e
    obtain ⟨hfirst, hrest⟩ := List.pairwise_cons.mp h
    rw [get?_cons, List.mem_cons, Prod.mk.injEq, ih hrest]
    split_ifs with heq
    · subst heq
      -- behind its entry a name does not come again
      have hnone : get? d k ≠ some v := fun hget =>
        lt_irrefl k (hfirst (k, v) ((ih hrest).mpr hget))
      simp only [hnone, or_false, true_and, Option.some.injEq, eq_comm]
    · simp [heq]

/-! ## Entries in order -/

/-- A name behind all others comes last. -/
theorem insert_of_forall_lt (h : ∀ e ∈ d, e.1 < k) (v : α) : d.insert k v = d ++ [(k, v)] := by
  induction d with
  | nil => rfl
  | cons e d ih =>
    obtain ⟨k', v'⟩ := e
    obtain ⟨hfirst, hrest⟩ := List.forall_mem_cons.mp h
    rw [insert, if_neg (ne_of_gt hfirst), if_neg (lt_asymm hfirst), ih hrest]
    rfl

theorem foldl_insert_of_ascending {entries : List (String × α)} (h : Ascending (d ++ entries)) :
    entries.foldl (fun d e => insert e.1 e.2 d) d = d ++ entries := by
  induction entries generalizing d with
  | nil => simp
  | cons e entries ih =>
    have hlast : ∀ e' ∈ d, e'.1 < e.1 := fun e' he' =>
      (List.pairwise_append.mp h).2.2 e' he' e List.mem_cons_self
    rw [List.append_cons] at h
    rw [List.foldl_cons, insert_of_forall_lt hlast, List.append_cons d e entries]
    exact ih h

/-- **Entries whose names ascend** are the dictionary of themselves. -/
theorem Ascending.ofList_eq (h : d.Ascending) : ofList d = d :=
  foldl_insert_of_ascending h

end Conformance.Dictionary
