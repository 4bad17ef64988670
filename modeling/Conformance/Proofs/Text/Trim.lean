import Conformance.Proofs.Literal.RoundTrip

/-!
# The blanks at the ends of a text

Trimming takes away the blanks at both ends of a text and nothing else: what is left neither begins
nor ends with a blank, and only blanks stood around it.

## Main definitions

* `Trims s t`: the text `t` is what is left of `s` without the blanks at its ends

## Main results

* `trim_eq_iff`: trimming a text leaves exactly this
-/

namespace Conformance.Text

open Literal (Blanks)

variable {s t : List Char}

/-- The text `t` is what is left of `s` without the blanks at its ends. -/
structure Trims (s t : List Char) : Prop where
  surrounded : ∃ before after, Blanks before ∧ Blanks after ∧ s = before ++ (t ++ after)
  start : ∀ c ∈ t.head?, isBlank c = false
  finish : ∀ c ∈ t.getLast?, isBlank c = false

theorem not_isBlank_of_mem_head?_trimStart (s : List Char) :
    ∀ c ∈ (trimStart s).head?, isBlank c = false := by
  intro c hc
  have h := List.head?_dropWhile_not isBlank s
  rw [← trimStart, Option.mem_def.mp hc] at h
  exact h

theorem trimEnd_append_blanks {after : List Char} (h : Blanks after) (s : List Char) :
    trimEnd (s ++ after) = trimEnd s := by
  have hafter : Blanks after.reverse := fun c hc => h c (List.mem_reverse.mp hc)
  rw [trimEnd, trimEnd, List.reverse_append, List.dropWhile_append_of_pos hafter]

/-- What trimming leaves. -/
theorem trims_trim (s : List Char) : Trims s (trim s) := by
  obtain ⟨before, hbefore, hs⟩ := Literal.exists_blanks s
  obtain ⟨after, hafter, hrest⟩ := Literal.exists_blanks (trimStart s).reverse
  have hsplit : trimStart s = trim s ++ after.reverse := by
    rw [← List.reverse_reverse (trimStart s), hrest, List.reverse_append]
    rfl
  refine ⟨⟨before, after.reverse, hbefore, ?_, ?_⟩, fun c hc => ?_, fun c hc => ?_⟩
  · exact fun c hc => hafter c (List.mem_reverse.mp hc)
  · rw [← hsplit]
    exact hs
  · -- what is left begins like the text that was only trimmed at its start
    apply not_isBlank_of_mem_head?_trimStart s
    rw [hsplit, List.head?_append, Option.mem_def.mp hc]
    rfl
  · apply not_isBlank_of_mem_head?_trimStart (trimStart s).reverse
    rwa [trim, trimEnd, List.getLast?_reverse] at hc

theorem Trims.trim_eq (h : Trims s t) : trim s = t := by
  obtain ⟨before, after, hbefore, hafter, rfl⟩ := h.surrounded
  have ht : trim t = t := Literal.trim_of_ends h.start h.finish
  rw [Literal.trim_blanks_append hbefore]
  cases t with
  | nil => rw [List.nil_append, trim, Literal.trimStart_of_blanks hafter, trimEnd_nil]
  | cons c t =>
    have hc : isBlank c = false := h.start c rfl
    rw [trim, Literal.trimStart_cons hc] at ht
    rw [trim, List.cons_append, Literal.trimStart_cons hc, ← List.cons_append,
      trimEnd_append_blanks hafter, ht]

/-- **Trimming takes away the blanks at both ends**, and nothing else. -/
theorem trim_eq_iff : trim s = t ↔ Trims s t :=
  ⟨fun h => h ▸ trims_trim s, Trims.trim_eq⟩

end Conformance.Text
