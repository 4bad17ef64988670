import Conformance.Text.WholeWord

/-!
# Whole words

A text has a word as a whole when the word stands somewhere in it with no word character directly
before or after it. The search decides this for words made of word characters, although it never
looks at the inside of an occurrence again: an occurrence that begins there has a word character
before it.

## Main definitions

* `HasWord text word`: the text has the word as a whole

## Main results

* `containsWord_iff`: the search finds exactly the whole words
-/

namespace Conformance.Text

/-- The text has the word as a whole: no word character stands directly before or after it. -/
def HasWord (text word : List Char) : Prop :=
  ∃ before after, text = before ++ word ++ after ∧
    (∀ c ∈ before.getLast?, isWordChar c = false) ∧ ∀ c ∈ after.head?, isWordChar c = false

theorem endsWord_iff (c : Option Char) : endsWord c = true ↔ ∀ d ∈ c, isWordChar d = false := by
  cases c <;> simp [endsWord]

variable {word : List Char}

/-- The word stands as a whole in what is left of a text behind the character `before`. -/
def StandsBehind (word : List Char) (before : Option Char) (cs : List Char) : Prop :=
  ∃ pre post, cs = pre ++ word ++ post ∧ endsWord (pre.getLast?.or before) = true ∧
    endsWord post.head? = true

theorem not_standsBehind_nil (hne : word ≠ []) (before : Option Char) :
    ¬ StandsBehind word before [] := by
  rintro ⟨pre, post, h, -, -⟩
  simp_all

theorem getLast?_or_some (pre : List Char) (c : Char) (before : Option Char) :
    ((c :: pre).getLast?).or before = pre.getLast?.or (some c) := by
  cases pre with
  | nil => rfl
  | cons d pre => simp [List.getLast?_cons]

/-- A word that stands in a text begins at its first character or stands behind it. -/
theorem standsBehind_cons (before : Option Char) (c : Char) (cs : List Char) :
    StandsBehind word before (c :: cs) ↔
      (word <+: c :: cs ∧ endsWord before = true ∧
        endsWord ((c :: cs).drop word.length).head? = true) ∨
      StandsBehind word (some c) cs := by
  constructor
  · rintro ⟨pre, post, h, hpre, hpost⟩
    cases pre with
    | nil =>
      refine .inl ⟨⟨post, by simpa using h.symm⟩, by simpa using hpre, ?_⟩
      rw [h]
      simpa using hpost
    | cons d pre =>
      obtain ⟨rfl, rfl⟩ := List.cons.inj h
      exact .inr ⟨pre, post, rfl, getLast?_or_some pre c before ▸ hpre, hpost⟩
  · rintro (⟨⟨post, h⟩, hpre, hpost⟩ | ⟨pre, post, rfl, hpre, hpost⟩)
    · refine ⟨[], post, by simpa using h.symm, by simpa using hpre, ?_⟩
      rw [← h] at hpost
      simpa using hpost
    · exact ⟨c :: pre, post, rfl, (getLast?_or_some pre c before).symm ▸ hpre, hpost⟩

/-- **The invariant of the search.** While it steps over the rest of an occurrence, the character
behind it and the next `skip` characters are word characters, so that no whole word begins there. -/
theorem findWord_iff (hne : word ≠ []) (hword : ∀ c ∈ word, isWordChar c = true) (cs : List Char) :
    ∀ (before : Option Char) (skip : Nat),
      (skip = 0 ∨ endsWord before = false ∧ ∀ c ∈ cs.take skip, isWordChar c = true) →
      (findWord word before skip cs = true ↔ StandsBehind word before cs) := by
  induction cs with
  | nil =>
    intro before skip _
    simp [findWord, not_standsBehind_nil hne before, hne]
  | cons c cs ih =>
    intro before skip hskip
    cases skip with
    | succ skip =>
      obtain ⟨hbefore, htake⟩ := hskip.resolve_left (by simp)
      have hc : isWordChar c = true := htake c (by simp)
      have hcs : ∀ d ∈ cs.take skip, isWordChar d = true := fun d hd => htake d (by simp [hd])
      rw [findWord, ih (some c) skip (.inr ⟨by simp [endsWord, hc], hcs⟩),
        standsBehind_cons before]
      simp [hbefore]
    | zero =>
      rw [standsBehind_cons before]
      by_cases hp : word <+: c :: cs
      · obtain ⟨d, ds, rfl⟩ := List.exists_cons_of_ne_nil hne
        obtain ⟨rfl, hds⟩ := List.cons_prefix_cons.mp hp
        have hd : isWordChar d = true := hword d (by simp)
        have hcs : ∀ e ∈ cs.take ds.length, isWordChar e = true := fun e he =>
          hword e (List.mem_cons_of_mem _ (by rwa [List.prefix_iff_eq_take.mp hds]))
        have hrest := ih (some d) ds.length (.inr ⟨by simp [endsWord, hd], hcs⟩)
        simp [findWord, hp, List.isPrefixOf_iff_prefix.mpr hds, hrest]
      · have hb : word.isPrefixOf (c :: cs) = false :=
          Bool.eq_false_iff.mpr (mt List.isPrefixOf_iff_prefix.mp hp)
        simp [findWord, hb, hp, ih (some c) 0 (.inl rfl)]

/-- **The search finds exactly the whole words**, for a word made of word characters. -/
theorem containsWord_iff {text word : String} (hne : word.toList ≠ [])
    (hword : word.toList.all isWordChar = true) :
    containsWord text word = true ↔ HasWord text.toList word.toList := by
  rw [containsWord, findWord_iff hne (List.all_eq_true.mp hword) _ none 0 (.inl rfl)]
  simp only [StandsBehind, HasWord, endsWord_iff, Option.or_none]

end Conformance.Text
