import Conformance.FileTree
import Mathlib.Data.List.Nodup
import Mathlib.Data.List.Perm.Subperm
import Mathlib.Tactic.SplitIfs

/-!
# What places hold

A place that is given a node holds it, and every other place holds what it held. The name of a
scratch directory is one of which there is nothing yet: there are more names to try than there are
nodes in the tree. A place that is removed takes with it what is below.

## Main definitions

* `FileTree.AlikeBelow`: two trees hold the same below a place of either
* `FileTree.Distinct`: a tree has no place twice

## Main results

* `FileTree.find?_put`, `FileTree.find?_write`: what is where after one place is given a node
* `FileTree.exists_freshName`: a fresh name has nothing at it
* `FileTree.find?_removeTree`: what is where after one place is removed
* `FileTree.AlikeBelow.write`, `FileTree.alikeBelow_put_directory`: trees that are alike below two
  places remain so, and empty directories are alike
* `FileTree.Distinct.mem_children_iff`: what is directly inside a place
-/

namespace Conformance.FileTree

variable {t t' : FileTree} {p p' q : Place} {node : Node}

/-! ## One place -/

theorem find?_of_ne (t : FileTree) (h : p ≠ []) : t.find? p = t.nodes.lookup p := by
  rw [find?, if_neg h]

theorem lookup_cons_eq_ite (e : Place × Node) (nodes : List (Place × Node)) (q : Place) :
    (e :: nodes).lookup q = if q = e.1 then some e.2 else nodes.lookup q := by
  rw [List.lookup_cons]
  by_cases h : q = e.1
  · simp [h]
  · rw [beq_eq_false_iff_ne.mpr h, if_neg h]

theorem lookup_map_put (nodes : List (Place × Node)) (p q : Place) (node : Node) :
    (nodes.map fun e => if e.1 = p then (p, node) else e).lookup q =
      if q = p then (nodes.lookup p).map fun _ => node else nodes.lookup q := by
  induction nodes with
  | nil => simp
  | cons e nodes ih =>
    rw [List.map_cons, lookup_cons_eq_ite, lookup_cons_eq_ite, lookup_cons_eq_ite, ih]
    by_cases he : e.1 = p
    · by_cases hq : q = p <;> simp [he, hq]
    · by_cases hq : q = p
      · subst hq
        simp [he, Ne.symm he]
      · simp [he, hq]

/-- **A place that is given a node holds it**, and every other place holds what it held. -/
theorem find?_put (t : FileTree) (hq : q ≠ []) :
    (t.put p node).find? q = if q = p then some node else t.find? q := by
  rw [find?_of_ne _ hq, find?_of_ne _ hq, put]
  split_ifs with hsome hqp hqp
  -- a place that holds something is given the node where it stands, and any other at the end
  · rw [lookup_map_put, if_pos hqp]
    obtain ⟨old, hold⟩ := Option.isSome_iff_exists.mp hsome
    rw [hold, Option.map_some]
  · rw [lookup_map_put, if_neg hqp]
  · subst hqp
    rw [Option.not_isSome_iff_eq_none] at hsome
    rw [List.lookup_append, hsome, lookup_cons_eq_ite, if_pos rfl]
    rfl
  · rw [List.lookup_append, lookup_cons_eq_ite, if_neg hqp, List.lookup_nil, Option.or_none]

theorem find?_put_of_ne (t : FileTree) (h : q ≠ p) (node : Node) :
    (t.put p node).find? q = t.find? q := by
  by_cases hroot : q = []
  · rw [hroot]
    rfl
  · rw [find?_put t hroot, if_neg h]

/-- The permission bits of a file that is written: those that it has, if it is there. -/
def modeAt (t : FileTree) (p : Place) : Nat :=
  match t.find? p with
  | some (.file _ mode) => mode
  | _ => newFileMode

theorem write_eq_put (t : FileTree) (p : Place) (content : Bytes) :
    t.write p content = t.put p (.file content (t.modeAt p)) := by
  unfold write modeAt
  rcases t.find? p with _ | node
  · rfl
  · cases node <;> rfl

theorem find?_write (t : FileTree) (hq : q ≠ []) (content : Bytes) :
    (t.write p content).find? q =
      if q = p then some (.file content (t.modeAt p)) else t.find? q := by
  rw [write_eq_put, find?_put t hq]

theorem find?_write_of_ne (t : FileTree) (h : q ≠ p) (content : Bytes) :
    (t.write p content).find? q = t.find? q := by
  rw [write_eq_put, find?_put_of_ne t h]

/-! ## Fresh names -/

theorem scratchName_inj {m n : Nat} (h : scratchName m = scratchName n) : m = n := by
  have hstring : m.repr = n.repr := by
    simpa [scratchName] using h
  have hdigits : Nat.toDigits 10 m = Nat.toDigits 10 n := by
    rw [← Nat.toList_repr, ← Nat.toList_repr, hstring]
  have hread : ∀ k, Nat.ofDigitChars 10 (Nat.toDigits 10 k) 0 = k := fun _ =>
    Nat.ofDigitChars_toDigits (by decide) (by decide)
  rw [← hread m, hdigits, hread]

/-- Of more names than there are nodes, one has nothing at it. -/
theorem exists_not_occupied (t : FileTree) (parent : Place) :
    ∃ n ∈ List.range (t.nodes.length + 1), t.occupied (parent ++ [scratchName n]) = false := by
  by_contra hall
  push Not at hall
  -- otherwise every one of the names would be that of a node below the parent
  let names := (List.range (t.nodes.length + 1)).map fun n => some (scratchName n)
  let found := t.nodes.map fun e => e.1[parent.length]?
  have hnodup : names.Nodup :=
    List.nodup_range.map fun m n h => scratchName_inj (Option.some.inj h)
  have hsubset : names ⊆ found := by
    intro name hname
    obtain ⟨n, hn, rfl⟩ := List.mem_map.mp hname
    have hoccupied : t.occupied (parent ++ [scratchName n]) = true := by
      simpa using hall n hn
    obtain ⟨e, he, hbegins⟩ := List.any_eq_true.mp hoccupied
    obtain ⟨rest, hrest⟩ := List.isPrefixOf_iff_prefix.mp hbegins
    refine List.mem_map.mpr ⟨e, he, ?_⟩
    simp [← hrest]
  have hlength := (hnodup.subperm hsubset).length_le
  simp only [names, found, List.length_map, List.length_range] at hlength
  omega

/-- **A fresh name has nothing at it.** -/
theorem exists_freshName (t : FileTree) (parent : Place) :
    ∃ n, t.freshName parent = scratchName n ∧
      t.occupied (parent ++ [scratchName n]) = false := by
  let free := fun n => !t.occupied (parent ++ [scratchName n])
  obtain ⟨m, hm, hfree⟩ := t.exists_not_occupied parent
  have hsome : ((List.range (t.nodes.length + 1)).find? free).isSome = true :=
    List.find?_isSome.mpr ⟨m, hm, by simp [free, hfree]⟩
  obtain ⟨n, hn⟩ := Option.isSome_iff_exists.mp hsome
  refine ⟨n, ?_, ?_⟩
  · rw [freshName, hn, Option.getD_some]
  · simpa [free] using List.find?_some hn

theorem find?_of_not_occupied (h : t.occupied p = false) (hp : p ≠ []) (q : Place) :
    t.find? (p ++ q) = none := by
  rw [find?_of_ne t (by simp [hp]), List.lookup_eq_none_iff]
  intro e he
  rw [occupied, List.any_eq_false] at h
  -- an entry that is found below the place would make it occupied
  apply bne_iff_ne.mpr
  intro hqe
  apply h e he
  rw [List.isPrefixOf_iff_prefix, ← hqe]
  exact List.prefix_append p q

/-! ## Removal -/

theorem lookup_filter_not_isPrefixOf (nodes : List (Place × Node)) (p q : Place) :
    (nodes.filter fun e => !p.isPrefixOf e.1).lookup q =
      if p <+: q then none else nodes.lookup q := by
  induction nodes with
  | nil => simp
  | cons e nodes ih =>
    by_cases he : p <+: e.1
    · have hgone : ¬(!p.isPrefixOf e.1) = true := by simpa using he
      rw [List.filter_cons, if_neg hgone, ih, lookup_cons_eq_ite]
      by_cases hq : q = e.1
      · rw [if_pos (hq ▸ he), if_pos (hq ▸ he)]
      · rw [if_neg hq]
    · have hkept : (!p.isPrefixOf e.1) = true := by
        rwa [Bool.not_eq_true', ← Bool.not_eq_true, List.isPrefixOf_iff_prefix]
      rw [List.filter_cons, if_pos hkept, lookup_cons_eq_ite, lookup_cons_eq_ite, ih]
      by_cases hq : q = e.1
      · rw [if_pos hq, if_pos hq, if_neg (hq ▸ he)]
      · rw [if_neg hq, if_neg hq]

/-- **Where a place is removed** nothing is left at it and below it, and every other place holds
what it held. -/
theorem find?_removeTree (t : FileTree) (hp : p ≠ []) :
    (t.removeTree p).find? q = if p <+: q then none else t.find? q := by
  by_cases hq : q = []
  · subst hq
    rw [if_neg (by simpa using hp)]
    rfl
  · rw [find?_of_ne _ hq, find?_of_ne _ hq]
    exact lookup_filter_not_isPrefixOf t.nodes p q

theorem occupied_removeTree (t : FileTree) (p : Place) : (t.removeTree p).occupied p = false := by
  rw [occupied, List.any_eq_false]
  intro e he
  rw [Bool.not_eq_true, ← Bool.not_eq_true']
  exact (List.mem_filter.mp he).2

theorem removeTree_of_not_occupied (h : t.occupied p = false) : t.removeTree p = t := by
  rw [occupied, List.any_eq_false] at h
  have hkept : t.nodes.filter (fun e => !p.isPrefixOf e.1) = t.nodes :=
    List.filter_eq_self.mpr fun e he => by rw [Bool.eq_false_iff.mpr (h e he), Bool.not_false]
  rw [removeTree, hkept]

theorem filter_map_put (nodes : List (Place × Node)) (h : p <+: q) (node : Node) :
    ((nodes.map fun e => if e.1 = q then (q, node) else e).filter fun e => !p.isPrefixOf e.1) =
      nodes.filter fun e => !p.isPrefixOf e.1 := by
  induction nodes with
  | nil => rfl
  | cons e nodes ih =>
    rw [List.map_cons, List.filter_cons, List.filter_cons, ih]
    by_cases he : e.1 = q
    · -- an entry that is given the node is not kept, before and after
      simp [he, List.isPrefixOf_iff_prefix.mpr h]
    · rw [if_neg he]

/-- What is put at a place or below it does not outlast the place. -/
theorem removeTree_put (t : FileTree) (h : p <+: q) (node : Node) :
    (t.put q node).removeTree p = t.removeTree p := by
  unfold put
  split_ifs
  · exact congrArg FileTree.mk (filter_map_put t.nodes h node)
  · simp [removeTree, List.isPrefixOf_iff_prefix.mpr h]

theorem removeTree_write (t : FileTree) (h : p <+: q) (content : Bytes) :
    (t.write q content).removeTree p = t.removeTree p := by
  rw [write_eq_put, removeTree_put t h]

/-! ## Two trees -/

/-- Below a place of either, two trees hold the same. -/
def AlikeBelow (t : FileTree) (p : Place) (t' : FileTree) (p' : Place) : Prop :=
  ∀ q, t.find? (p ++ q) = t'.find? (p' ++ q)

/-- Where nothing is there is the same. -/
theorem alikeBelow_of_not_occupied (h : t.occupied p = false) (h' : t'.occupied p' = false)
    (hp : p ≠ []) (hp' : p' ≠ []) : t.AlikeBelow p t' p' := by
  intro q
  rw [find?_of_not_occupied h hp, find?_of_not_occupied h' hp']

/-- Directories made where nothing was are alike. -/
theorem alikeBelow_put_directory (h : t.occupied p = false) (h' : t'.occupied p' = false)
    (hp : p ≠ []) (hp' : p' ≠ []) :
    (t.put p .directory).AlikeBelow p (t'.put p' .directory) p' := by
  intro q
  rw [find?_put t (by simp [hp]), find?_put t' (by simp [hp']), find?_of_not_occupied h hp,
    find?_of_not_occupied h' hp']
  simp

/-- A file written on both sides keeps trees alike. -/
theorem AlikeBelow.write (h : t.AlikeBelow p t' p') (hp : p ≠ []) (hp' : p' ≠ [])
    (name : String) (content : Bytes) :
    (t.write (p ++ [name]) content).AlikeBelow p (t'.write (p' ++ [name]) content) p' := by
  intro q
  have hmode : t.modeAt (p ++ [name]) = t'.modeAt (p' ++ [name]) := by
    rw [modeAt, modeAt, h [name]]
  rw [find?_write t (by simp [hp]), find?_write t' (by simp [hp']), hmode, h]
  simp

/-! ## What is directly inside a place -/

/-- **A tree has no place twice**. -/
def Distinct (t : FileTree) : Prop :=
  (t.nodes.map Prod.fst).Nodup

instance (t : FileTree) : Decidable t.Distinct :=
  inferInstanceAs (Decidable (t.nodes.map Prod.fst).Nodup)

theorem distinct_empty : Distinct {} :=
  List.nodup_nil

/-- A tree still has no place twice when one of them is given a node. -/
theorem Distinct.put (h : t.Distinct) (p : Place) (node : Node) : (t.put p node).Distinct := by
  unfold FileTree.put
  split_ifs with hsome
  · have hplaces : (t.nodes.map fun e => if e.1 = p then (p, node) else e).map Prod.fst =
        t.nodes.map Prod.fst := by
      rw [List.map_map]
      refine List.map_congr_left fun e _ => ?_
      by_cases he : e.1 = p <;> simp [he]
    rwa [Distinct, hplaces]
  · have hfresh : p ∉ t.nodes.map Prod.fst := by
      rw [Option.not_isSome_iff_eq_none, List.lookup_eq_none_iff] at hsome
      rintro hmem
      obtain ⟨e, he, rfl⟩ := List.mem_map.mp hmem
      simpa using hsome e he
    rw [Distinct, List.map_append, List.map_singleton, ← List.concat_eq_append,
      List.nodup_concat]
    exact ⟨hfresh, h⟩

theorem lookup_eq_some_iff_mem {nodes : List (Place × Node)} (h : (nodes.map Prod.fst).Nodup) :
    nodes.lookup p = some node ↔ (p, node) ∈ nodes := by
  induction nodes with
  | nil => simp
  | cons e nodes ih =>
    obtain ⟨q, node'⟩ := e
    rw [List.map_cons, List.nodup_cons] at h
    rw [lookup_cons_eq_ite, List.mem_cons, Prod.mk.injEq, ← ih h.2]
    split_ifs with hp
    · -- the place does not come again
      have hnot : nodes.lookup p ≠ some node := fun hlookup =>
        h.1 (hp ▸ List.mem_map_of_mem ((ih h.2).mp hlookup))
      simp only [hp, true_and, Option.some.injEq, eq_comm, or_iff_left (hp ▸ hnot)]
    · simp [hp]

theorem eq_of_child {name : String} {node' : Node}
    (h : (match q.getLast? with
      | some name => if q.dropLast = p then some (name, node) else none
      | none => none) = some (name, node')) : q = p ++ [name] ∧ node = node' := by
  cases hlast : q.getLast? with
  | none => simp [hlast] at h
  | some last =>
    simp only [hlast] at h
    split_ifs at h with hparent
    obtain ⟨rfl, rfl⟩ := Prod.mk.inj (Option.some.inj h)
    exact ⟨by rw [← hparent, List.dropLast_append_getLast? last hlast], rfl⟩

theorem mem_children_iff_mem_nodes {name : String} :
    (name, node) ∈ t.children p ↔ (p ++ [name], node) ∈ t.nodes := by
  rw [children, List.mem_filterMap]
  constructor
  · rintro ⟨⟨q, node'⟩, hmem, hchild⟩
    obtain ⟨rfl, rfl⟩ := eq_of_child hchild
    exact hmem
  · intro hmem
    exact ⟨_, hmem, by simp⟩

/-- **What is directly inside a place** is what the places one name further hold. -/
theorem Distinct.mem_children_iff (h : t.Distinct) {name : String} :
    (name, node) ∈ t.children p ↔ t.find? (p ++ [name]) = some node := by
  rw [mem_children_iff_mem_nodes, find?_of_ne t (by simp), lookup_eq_some_iff_mem h]

/-- No name is there twice. -/
theorem Distinct.nodup_children (h : t.Distinct) (p : Place) :
    ((t.children p).map Prod.fst).Nodup := by
  rw [List.Nodup, List.pairwise_map, children, List.pairwise_filterMap]
  refine (List.pairwise_map.mp h).imp fun hne e he e' he' hname => hne ?_
  rw [(eq_of_child he).1, (eq_of_child he').1, hname]

end Conformance.FileTree
