import Conformance.Regular
import Mathlib.Data.List.Basic

/-!
# What regular expressions match

A match of an expression goes from one position of a text to another. The search with sets of
positions finds the ends of just these matches: every map between sets of positions that it uses
takes them along a relation between positions. Repetitions without a bound need no more rounds than
there are positions, because every round but the last adds one.

## Main definitions

* `Regular.Steps`: a relation between positions, taken a number of times
* `Regular.Spans`: a match of an expression goes from one position to another
* `Regular.Realizes`: a map takes sets of positions along a relation

## Main results

* `Realizes.exactly`, `Realizes.upTo`, `Realizes.closure`: what the rounds of a repetition reach
* `realizes_reach`: what the search reaches
* `matchesWhole_iff`, `foundIn_iff`: what the two kinds of search decide
-/

namespace Conformance.Regular

variable {α : Type}

/-! ## Matches -/

/-- A relation between positions, taken a number of times. -/
def Steps (R : Nat → Nat → Prop) : Nat → Nat → Nat → Prop
  | 0, i, j => i = j
  | n + 1, i, j => ∃ k, R i k ∧ Steps R n k j

/-- The letter before a position. -/
def before? (text : List α) : Nat → Option α
  | 0 => none
  | i + 1 => text[i]?

/-- **A match of the expression goes from one position of the text to another.** A bound that is
below the least number of times counts for nothing. -/
def Spans (text : List α) : Regular α → Nat → Nat → Prop
  | empty, i, j => i = j
  | one p, i, j => j = i + 1 ∧ ∃ a, text[i]? = some a ∧ p a = true
  | border p, i, j => i = j ∧ p (before? text i) text[i]? = true
  | seq r s, i, j => ∃ k, Spans text r i k ∧ Spans text s k j
  | alt r s, i, j => Spans text r i j ∨ Spans text s i j
  | times r least most, i, j =>
    ∃ n, least ≤ n ∧ (∀ bound ∈ most, n ≤ max least bound) ∧ Steps (Spans text r) n i j

section Steps

variable {R : Nat → Nat → Prop} {i j : Nat}

@[simp] theorem steps_zero : Steps R 0 i j ↔ i = j := Iff.rfl

theorem steps_succ {n : Nat} : Steps R (n + 1) i j ↔ ∃ k, R i k ∧ Steps R n k j := Iff.rfl

theorem steps_add {m n : Nat} : Steps R (m + n) i j ↔ ∃ k, Steps R m i k ∧ Steps R n k j := by
  induction m generalizing i with
  | zero => simp
  | succ m ih =>
    rw [Nat.succ_add]
    simp only [steps_succ, ih]
    constructor
    · rintro ⟨k, hk, l, hl, hj⟩
      exact ⟨l, ⟨k, hk, hl⟩, hj⟩
    · rintro ⟨l, ⟨k, hk, hl⟩, hj⟩
      exact ⟨k, hk, l, hl, hj⟩

end Steps

/-! ## Sets of positions -/

namespace Marks

/-- The position is marked. -/
def Has (m : Marks) (i : Nat) : Prop :=
  m[i]? = some true

theorem Has.lt_length {m : Marks} {i : Nat} (h : m.Has i) : i < m.length :=
  (List.getElem?_eq_some_iff.mp h).1

@[simp] theorem has_cons_zero {b : Bool} {m : Marks} : Has (b :: m) 0 ↔ b = true := by
  simp [Has]

@[simp] theorem has_cons_succ {b : Bool} {m : Marks} {i : Nat} :
    Has (b :: m) (i + 1) ↔ m.Has i := by
  simp [Has]

theorem length_union {m m' : Marks} (h : m'.length = m.length) :
    (m.union m').length = m.length := by
  rw [union, List.length_zipWith, h, Nat.min_self]

theorem has_union {m m' : Marks} (h : m'.length = m.length) {i : Nat} :
    (m.union m').Has i ↔ m.Has i ∨ m'.Has i := by
  induction m generalizing m' i with
  | nil =>
    obtain rfl := List.length_eq_zero_iff.mp h
    simp [union, Has]
  | cons b m ih =>
    obtain ⟨b', m', rfl⟩ := List.exists_cons_of_length_eq_add_one h
    have hlength : m'.length = m.length := Nat.succ.inj h
    cases i with
    | zero => simp [union]
    | succ i => simpa [union] using ih hlength

/-- The number of positions that are not marked. -/
def unmarked (m : Marks) : Nat :=
  m.count false

theorem unmarked_le_length (m : Marks) : m.unmarked ≤ m.length :=
  List.count_le_length

/-- A union is the same set, or it leaves fewer positions unmarked. -/
theorem union_eq_or_unmarked_lt {m m' : Marks} (h : m'.length = m.length) :
    m.union m' = m ∨ (m.union m').unmarked < m.unmarked := by
  induction m generalizing m' with
  | nil => exact .inl rfl
  | cons b m ih =>
    obtain ⟨b', m', rfl⟩ := List.exists_cons_of_length_eq_add_one h
    have hrest := ih (Nat.succ.inj h)
    simp only [union, unmarked] at hrest ⊢
    rw [List.zipWith_cons_cons, List.count_cons, List.count_cons]
    -- the first position counts as before, or the union is what marks it
    rcases hrest with heq | hlt
    · rw [heq]
      cases b <;> cases b' <;> simp
    · right
      cases b <;> cases b' <;> simp <;> omega

theorem has_of_unmarked_eq_zero {m : Marks} (h : m.unmarked = 0) {i : Nat} (hi : i < m.length) :
    m.Has i := by
  have hnot : false ∉ m := List.count_eq_zero.mp h
  rw [Has, List.getElem?_eq_getElem hi]
  cases hmark : m[i] with
  | true => rfl
  | false => exact absurd (hmark ▸ List.getElem_mem hi) hnot

end Marks

/-! ## Maps between sets of positions -/

/-- **The map takes sets of positions along the relation**: it marks what the relation reaches from
a marked position. -/
structure Realizes (size : Nat) (f : Marks → Marks) (R : Nat → Nat → Prop) : Prop where
  length : ∀ {m}, m.length = size → (f m).length = size
  has_iff : ∀ {m}, m.length = size → ∀ j, (f m).Has j ↔ ∃ i, m.Has i ∧ R i j

namespace Realizes

variable {size : Nat} {f g : Marks → Marks} {R S : Nat → Nat → Prop}

theorem congr (h : Realizes size f R) (heq : ∀ i j, R i j ↔ S i j) : Realizes size f S where
  length := h.length
  has_iff hm j := by simp only [h.has_iff hm, heq]

theorem comp (hf : Realizes size f R) (hg : Realizes size g S) :
    Realizes size (fun m => g (f m)) (fun i j => ∃ k, R i k ∧ S k j) where
  length hm := hg.length (hf.length hm)
  has_iff hm j := by
    rw [hg.has_iff (hf.length hm)]
    constructor
    · rintro ⟨k, hk, hkj⟩
      obtain ⟨i, hi, hik⟩ := (hf.has_iff hm k).mp hk
      exact ⟨i, hi, k, hik, hkj⟩
    · rintro ⟨i, hi, k, hik, hkj⟩
      exact ⟨k, (hf.has_iff hm k).mpr ⟨i, hi, hik⟩, hkj⟩

theorem union (hf : Realizes size f R) (hg : Realizes size g S) :
    Realizes size (fun m => (f m).union (g m)) (fun i j => R i j ∨ S i j) where
  length hm := by
    rw [Marks.length_union ((hg.length hm).trans (hf.length hm).symm), hf.length hm]
  has_iff hm j := by
    rw [Marks.has_union ((hg.length hm).trans (hf.length hm).symm), hf.has_iff hm, hg.has_iff hm]
    simp only [and_or_left, exists_or]

variable (h : Realizes size f R) {m : Marks} {i j : Nat}
include h

/-- What is reached from the marked positions is marked, if all that one step reaches is. -/
theorem has_of_steps (hm : m.length = size) (hclosed : ∀ {k}, (f m).Has k → m.Has k) {n : Nat}
    (hi : m.Has i) (hsteps : Steps R n i j) : m.Has j := by
  induction n generalizing i with
  | zero => exact hsteps ▸ hi
  | succ n ih =>
    -- what the first step reaches is marked already, and the others begin there
    obtain ⟨k, hik, hkj⟩ := hsteps
    exact ih (hclosed ((h.has_iff hm k).mpr ⟨i, hi, hik⟩)) hkj

/-- Applied `n` times, the map takes sets of positions along `n` steps. That it may stop early, once
nothing changes, makes no difference. -/
theorem exactly (n : Nat) : Realizes size (exactly f n) (Steps R n) := by
  induction n with
  | zero => exact ⟨fun hm => hm, fun hm j => by simp [Regular.exactly]⟩
  | succ n ih =>
    refine ⟨fun {m} hm => ?_, fun {m} hm j => ?_⟩
    · rw [Regular.exactly]
      split
      · exact hm
      · exact ih.length (h.length hm)
    · rw [Regular.exactly]
      split
      · next hstop =>
        have hfixed : f m = m := eq_of_beq hstop
        constructor
        · -- every marked position has a marked one a step before it
          suffices hback : ∀ n j, m.Has j → ∃ i, m.Has i ∧ Steps R n i j from hback (n + 1) j
          intro n
          induction n with
          | zero => exact fun j hj => ⟨j, hj, rfl⟩
          | succ n ihn =>
            intro j hj
            obtain ⟨k, hk, hkj⟩ := ihn j hj
            obtain ⟨i, hi, hik⟩ := (h.has_iff hm k).mp (hfixed.symm ▸ hk)
            exact ⟨i, hi, k, hik, hkj⟩
        · rintro ⟨i, hi, hsteps⟩
          exact h.has_of_steps hm (fun hk => hfixed ▸ hk) hi hsteps
      · exact (h.comp ih).has_iff hm j

/-- One round of a repetition keeps what is marked and adds what one step reaches. -/
theorem grow : Realizes size (fun m => m.union (f m)) (fun i j => i = j ∨ R i j) :=
  union ⟨fun hm => hm, fun _ j => by simp⟩ h

theorem has_of_stop (hm : m.length = size) (hstop : m.union (f m) = m) {n : Nat} (hi : m.Has i)
    (hsteps : Steps R n i j) : m.Has j := by
  refine h.has_of_steps hm (fun {k} hk => ?_) hi hsteps
  rw [← hstop, Marks.has_union ((h.length hm).trans hm.symm)]
  exact .inr hk

/-- After `n` rounds the marks are what up to `n` steps reach. -/
theorem upTo (n : Nat) : Realizes size (upTo f n) (fun i j => ∃ k ≤ n, Steps R k i j) := by
  induction n with
  | zero => exact ⟨fun hm => hm, fun hm j => by simp [Regular.upTo]⟩
  | succ n ih =>
    -- a round is a step that may also stay where it is, so that fewer steps are steps as well
    have hround : Realizes size (fun m => Regular.upTo f n (m.union (f m)))
        (fun i j => ∃ k ≤ n + 1, Steps R k i j) := by
      refine (h.grow.comp ih).congr fun i j => ⟨?_, ?_⟩
      · rintro ⟨k, rfl | hik, l, hl, hkj⟩
        · exact ⟨l, Nat.le_succ_of_le hl, hkj⟩
        · exact ⟨l + 1, Nat.succ_le_succ hl, k, hik, hkj⟩
      · rintro ⟨_ | l, hl, hsteps⟩
        · exact ⟨i, .inl rfl, 0, Nat.zero_le n, hsteps⟩
        · obtain ⟨k, hik, hkj⟩ := hsteps
          exact ⟨k, .inr hik, l, Nat.le_of_succ_le_succ hl, hkj⟩
    refine ⟨fun {m} hm => ?_, fun {m} hm j => ?_⟩
    · rw [Regular.upTo]
      split
      · exact hm
      · exact hround.length hm
    · rw [Regular.upTo]
      split
      · next hstop =>
        constructor
        · exact fun hj => ⟨j, hj, 0, Nat.zero_le _, rfl⟩
        · rintro ⟨i, hi, k, -, hsteps⟩
          exact h.has_of_stop hm (eq_of_beq hstop) hi hsteps
      · exact hround.has_iff hm j

/-- Rounds as many as there are unmarked positions reach all that any number of steps does. -/
theorem has_upTo_of_steps {n : Nat} (hm : m.length = size) (hn : m.unmarked ≤ n) {k : Nat}
    (hi : m.Has i) (hsteps : Steps R k i j) : (Regular.upTo f n m).Has j := by
  -- every round marks a position, or there is nothing to be added
  induction n generalizing m i k with
  | zero =>
    -- all positions are marked, and what is reached is one of them
    have hj := ((h.exactly k).has_iff hm j).mpr ⟨i, hi, hsteps⟩
    refine Marks.has_of_unmarked_eq_zero (Nat.le_zero.mp hn) ?_
    rw [hm, ← (h.exactly k).length hm]
    exact hj.lt_length
  | succ n ih =>
    rw [Regular.upTo]
    split
    · next hstop => exact h.has_of_stop hm (eq_of_beq hstop) hi hsteps
    · next hgo =>
      have hlt := (Marks.union_eq_or_unmarked_lt ((h.length hm).trans hm.symm)).resolve_left
        fun heq => hgo (beq_iff_eq.mpr heq)
      have hstart : (m.union (f m)).Has i := (h.grow.has_iff hm i).mpr ⟨i, hi, .inl rfl⟩
      exact ih (h.grow.length hm) (by omega) hstart hsteps

/-- **Rounds as many as there are positions** take sets of positions along any number of steps. -/
theorem closure : Realizes size (Regular.upTo f size) (fun i j => ∃ k, Steps R k i j) where
  length := (h.upTo size).length
  has_iff {m} hm j := by
    constructor
    · intro hj
      obtain ⟨i, hi, k, -, hsteps⟩ := ((h.upTo size).has_iff hm j).mp hj
      exact ⟨i, hi, k, hsteps⟩
    · rintro ⟨i, hi, k, hsteps⟩
      exact h.has_upTo_of_steps hm (hm ▸ m.unmarked_le_length) hi hsteps

end Realizes

/-! ## The search -/

theorem length_borders (text : List α) : (borders text).length = text.length + 1 := by
  simp [borders]

theorem getElem?_borders (text : List α) {i : Nat} (hi : i ≤ text.length) :
    (borders text)[i]? = some (before? text i, text[i]?) := by
  rw [borders, List.getElem?_zip_eq_some]
  constructor
  · cases i with
    | zero => rfl
    | succ i => simp [before?, List.getElem?_eq_getElem hi]
  · rcases Nat.lt_or_eq_of_le hi with hlt | rfl
    · simp [List.getElem?_append_left, hlt]
    · simp

theorem realizes_one (text : List α) (p : α → Bool) :
    Realizes (text.length + 1) (reach text (one p)) (Spans text (one p)) where
  length {m} hm := by simp [reach, hm]
  has_iff {m} _ j := by
    cases j with
    | zero => simp [reach, Spans]
    | succ j =>
      simp only [reach, Spans, Marks.has_cons_succ, Nat.succ.injEq]
      rw [Marks.Has, List.getElem?_zipWith_eq_some]
      constructor
      · rintro ⟨b, a, hb, ha, hp⟩
        obtain ⟨rfl, hp⟩ := Bool.and_eq_true_iff.mp hp
        exact ⟨j, hb, rfl, a, ha, hp⟩
      · rintro ⟨i, hi, rfl, a, ha, hp⟩
        exact ⟨true, a, hi, ha, hp⟩

theorem realizes_border (text : List α) (p : Option α → Option α → Bool) :
    Realizes (text.length + 1) (reach text (border p)) (Spans text (border p)) where
  length {m} hm := by simp [reach, hm, length_borders]
  has_iff {m} hm j := by
    have hborder : ∀ {i}, m.Has i → (borders text)[i]? = some (before? text i, text[i]?) :=
      fun {i} hi => getElem?_borders text (by have := hi.lt_length; omega)
    simp only [reach, Spans]
    rw [Marks.Has, List.getElem?_zipWith_eq_some]
    constructor
    · rintro ⟨b, e, hb, he, hp⟩
      obtain ⟨rfl, hp⟩ := Bool.and_eq_true_iff.mp hp
      obtain rfl := Option.some.inj ((hborder hb).symm.trans he)
      exact ⟨j, hb, rfl, hp⟩
    · rintro ⟨i, hi, rfl, hp⟩
      exact ⟨true, _, hi, hborder hi, hp⟩

theorem realizes_times {text : List α} {r : Regular α}
    (h : Realizes (text.length + 1) (reach text r) (Spans text r)) (least : Nat)
    (most : Option Nat) :
    Realizes (text.length + 1) (reach text (times r least most))
      (Spans text (times r least most)) := by
  -- the least number of times, and then as many more as the bound allows
  cases most with
  | none =>
    have hrounds : Realizes (text.length + 1)
        (fun m => upTo (reach text r) (text.length + 1) (exactly (reach text r) least m))
        (Spans text (times r least none)) := by
      refine ((h.exactly least).comp h.closure).congr fun i j => ?_
      simp only [Spans]
      constructor
      · rintro ⟨k, hik, n, hkj⟩
        exact ⟨least + n, Nat.le_add_right _ _, nofun, steps_add.mpr ⟨k, hik, hkj⟩⟩
      · rintro ⟨n, hn, -, hsteps⟩
        obtain ⟨extra, rfl⟩ := Nat.exists_eq_add_of_le hn
        obtain ⟨k, hik, hkj⟩ := steps_add.mp hsteps
        exact ⟨k, hik, extra, hkj⟩
    refine ⟨fun {m} hm => ?_, fun {m} hm j => ?_⟩
    · rw [reach, hm]
      exact hrounds.length hm
    · rw [reach, hm]
      exact hrounds.has_iff hm j
  | some most =>
    refine ((h.exactly least).comp (h.upTo (most - least))).congr fun i j => ?_
    simp only [Spans]
    constructor
    · rintro ⟨k, hik, n, hn, hkj⟩
      refine ⟨least + n, Nat.le_add_right _ _, ?_, steps_add.mpr ⟨k, hik, hkj⟩⟩
      rintro _ ⟨⟩
      omega
    · rintro ⟨n, hn, hbound, hsteps⟩
      obtain ⟨extra, rfl⟩ := Nat.exists_eq_add_of_le hn
      obtain ⟨k, hik, hkj⟩ := steps_add.mp hsteps
      have hmost := hbound most rfl
      exact ⟨k, hik, extra, by omega, hkj⟩

/-- **What the search reaches**: it takes sets of positions along the matches of the expression. -/
theorem realizes_reach (text : List α) (r : Regular α) :
    Realizes (text.length + 1) (reach text r) (Spans text r) := by
  induction r with
  | empty => exact ⟨fun hm => hm, fun _ j => by simp [reach, Spans]⟩
  | one p => exact realizes_one text p
  | border p => exact realizes_border text p
  | seq r s ihr ihs => exact ihr.comp ihs
  | alt r s ihr ihs => exact ihr.union ihs
  | times r least most ih => exact realizes_times ih least most

/-- **A whole text matches** if a match goes from its beginning to its end. -/
theorem matchesWhole_iff (r : Regular α) (text : List α) :
    r.matchesWhole text = true ↔ Spans text r 0 text.length := by
  let start : Marks := true :: text.map fun _ => false
  have hlength : start.length = text.length + 1 := by simp [start]
  have hstart : ∀ i, start.Has i ↔ i = 0 := by
    rintro (_ | i) <;> simp [start, Marks.Has, List.getElem?_replicate]
  have hreach := realizes_reach text r
  -- the only position to begin at is the first, and the last mark tells whether the last is reached
  have hend := hreach.has_iff hlength text.length
  simp only [hstart, exists_eq_left] at hend
  rw [← hend, matchesWhole, beq_iff_eq, List.getLast?_eq_getElem?, hreach.length hlength]
  rfl

/-- **Some part of a text matches** if a match goes from one of its positions to another. -/
theorem foundIn_iff (r : Regular α) (text : List α) :
    r.foundIn text = true ↔ ∃ i ≤ text.length, ∃ j, Spans text r i j := by
  let start : Marks := true :: text.map fun _ => true
  have hlength : start.length = text.length + 1 := by simp [start]
  have hstart : ∀ i, start.Has i ↔ i < text.length + 1 := by
    rintro (_ | i) <;> simp [start, Marks.Has, List.getElem?_replicate]
  have hreach := (realizes_reach text r).has_iff hlength
  simp only [hstart, Nat.lt_succ_iff] at hreach
  rw [foundIn, List.any_eq_true]
  constructor
  · rintro ⟨b, hb, rfl⟩
    obtain ⟨j, hj⟩ := List.getElem?_of_mem hb
    obtain ⟨i, hi, hspans⟩ := (hreach j).mp hj
    exact ⟨i, hi, j, hspans⟩
  · rintro ⟨i, hi, j, hspans⟩
    exact ⟨true, List.mem_of_getElem? ((hreach j).mpr ⟨i, hi, hspans⟩), rfl⟩

end Conformance.Regular
