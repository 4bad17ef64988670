import Conformance.Proofs.Text.WholeWord
import Mathlib.Data.List.Basic

/-!
# Whole words and runs of word characters

A text has a word as a whole exactly if the word is one of its maximal runs of word characters. The
search comes upon such a run although it only looks at occurrences that do not overlap: what it
passes over begins inside of an occurrence, and so directly behind a word character.

## Main definitions

* `Occurrence`, `Occurrence.Whole`: a place where a word stands, and one where it stands alone
* `Found`: the occurrences that a search from left to right comes upon
* `Stretch`, `MaximalRun`: word characters one after the other, and those that could not be more

## Main results

* `exists_found`: the occurrences of a word can be gone through from left to right
* `findWord_iff_of_found`: the search looks at these occurrences and no others
* `maximalRun_iff_hasWord`: the maximal runs are the words that stand alone
* `whole_words_found`: the search, the words that stand alone and the maximal runs agree
-/

namespace Conformance.Text

/-! ## The occurrences that are looked at -/

/-- A place where a word stands in a text: what is before it, and what is behind it. -/
structure Occurrence where
  before : List Char
  after : List Char

/-- The word stands alone: no word character is directly before or after it. -/
def Occurrence.Whole (o : Occurrence) : Prop :=
  (∀ c ∈ o.before.getLast?, isWordChar c = false) ∧ ∀ c ∈ o.after.head?, isWordChar c = false

/-- **The occurrences that a search from left to right comes upon** in what is left of a text behind
`seen`. Each is the first one behind the end of the one before; those that overlap it are passed
over. -/
inductive Found (word : List Char) : (seen cs : List Char) → List Occurrence → Prop
  | none {seen cs : List Char} (h : ¬ word <:+: cs) : Found word seen cs []
  | next {seen pre post : List Char} {os : List Occurrence}
    (first : ∀ pre' post', pre ++ word ++ post = pre' ++ word ++ post' →
      pre.length ≤ pre'.length)
    (h : Found word (seen ++ pre ++ word) post os) :
    Found word seen (pre ++ word ++ post) (⟨seen ++ pre, post⟩ :: os)

variable {word cs seen pre post : List Char} {before : Option Char}

/-- A word that stands in a text has a first occurrence. -/
theorem exists_first_occurrence (h : word <:+: cs) :
    ∃ pre post, cs = pre ++ word ++ post ∧
      ∀ pre' post', cs = pre' ++ word ++ post' → pre.length ≤ pre'.length := by
  induction cs with
  | nil =>
    obtain rfl := List.infix_nil.mp h
    exact ⟨[], [], rfl, fun _ _ _ => Nat.zero_le _⟩
  | cons c cs ih =>
    by_cases hp : word <+: c :: cs
    · obtain ⟨post, hpost⟩ := hp
      exact ⟨[], post, hpost.symm, fun _ _ _ => Nat.zero_le _⟩
    · obtain ⟨pre, post, rfl, hfirst⟩ := ih ((List.infix_cons_iff.mp h).resolve_left hp)
      refine ⟨c :: pre, post, rfl, ?_⟩
      intro pre' post' heq
      cases pre' with
      | nil => exact absurd ⟨post', heq.symm⟩ hp
      | cons d pre' =>
        obtain ⟨rfl, htail⟩ := List.cons.inj heq
        exact Nat.succ_le_succ (hfirst pre' post' htail)

/-- The occurrences of a word can be gone through from left to right. -/
theorem exists_found (hne : word ≠ []) (seen cs : List Char) : ∃ os, Found word seen cs os := by
  by_cases h : word <:+: cs
  · obtain ⟨pre, post, rfl, hfirst⟩ := exists_first_occurrence h
    -- behind an occurrence there is less of the text left
    have hlt : post.length < (pre ++ word ++ post).length := by
      have hpos := List.length_pos_iff.mpr hne
      rw [List.length_append, List.length_append]
      omega
    obtain ⟨os, hos⟩ := exists_found hne (seen ++ pre ++ word) post
    exact ⟨_, .next hfirst hos⟩
  · exact ⟨[], .none h⟩
termination_by cs.length

/-! ## The search -/

/-- The search steps over the rest of an occurrence. -/
theorem findWord_skip (word : List Char) (before : Option Char) (taken post : List Char) :
    findWord word before taken.length (taken ++ post) =
      findWord word (taken.getLast?.or before) 0 post := by
  induction taken generalizing before with
  | nil => rfl
  | cons c taken ih =>
    rw [List.cons_append, List.length_cons, findWord, ih, getLast?_or_some]

theorem findWord_cons_of_not_begins {c : Char} (h : ¬ word <+: c :: cs) :
    findWord word before 0 (c :: cs) = findWord word (some c) 0 cs := by
  have hb : word.isPrefixOf (c :: cs) = false :=
    Bool.eq_false_iff.mpr (mt List.isPrefixOf_iff_prefix.mp h)
  simp only [findWord, hb, Bool.false_eq_true, if_false]

theorem findWord_of_not_occurs (hne : word ≠ []) (h : ¬ word <:+: cs) :
    findWord word before 0 cs = false := by
  induction cs generalizing before with
  | nil => simp [findWord, hne]
  | cons c cs ih =>
    rw [List.infix_cons_iff, not_or] at h
    rw [findWord_cons_of_not_begins h.1, ih h.2]

/-- The search goes on to the first occurrence. -/
theorem findWord_append_of_first
    (first : ∀ pre' post', pre ++ word ++ post = pre' ++ word ++ post' →
      pre.length ≤ pre'.length) :
    findWord word before 0 (pre ++ word ++ post) =
      findWord word (pre.getLast?.or before) 0 (word ++ post) := by
  induction pre generalizing before with
  | nil => rfl
  | cons c pre ih =>
    have hnot : ¬ word <+: c :: (pre ++ word ++ post) := by
      rintro ⟨post', hpost'⟩
      exact absurd (first [] post' hpost'.symm) (by simp)
    have htail : ∀ pre' post', pre ++ word ++ post = pre' ++ word ++ post' →
        pre.length ≤ pre'.length := by
      intro pre' post' heq
      exact Nat.le_of_succ_le_succ (first (c :: pre') post' (congrArg (List.cons c) heq))
    rw [List.cons_append, List.cons_append, findWord_cons_of_not_begins hnot, ih htail,
      getLast?_or_some]

/-- The search looks at an occurrence, and goes on behind it. -/
theorem findWord_append (hne : word ≠ []) (before : Option Char) (post : List Char) :
    findWord word before 0 (word ++ post) =
      ((endsWord before && endsWord post.head?) || findWord word word.getLast? 0 post) := by
  obtain ⟨c, cs, rfl⟩ := List.exists_cons_of_ne_nil hne
  have hprefix : (c :: cs).isPrefixOf (c :: (cs ++ post)) = true :=
    List.isPrefixOf_iff_prefix.mpr (List.prefix_append (c :: cs) post)
  have hdrop : (c :: (cs ++ post)).drop (c :: cs).length = post :=
    List.drop_left
  have hlast : cs.getLast?.or (some c) = (c :: cs).getLast? := by
    rw [← getLast?_or_some cs c none, Option.or_none]
  rw [List.cons_append, findWord, if_pos hprefix, hdrop, List.length_cons, Nat.add_sub_cancel,
    findWord_skip, hlast]

/-- **The search looks at the occurrences that it comes upon, and at no others.** -/
theorem findWord_iff_of_found {os : List Occurrence} (hne : word ≠ []) (h : Found word seen cs os) :
    findWord word seen.getLast? 0 cs = true ↔ ∃ o ∈ os, o.Whole := by
  induction h with
  | none h => simp [findWord_of_not_occurs hne h]
  | @next seen pre post os first _ ih =>
    have hbefore : pre.getLast?.or seen.getLast? = (seen ++ pre).getLast? :=
      List.getLast?_append.symm
    have hbehind : (seen ++ pre ++ word).getLast? = word.getLast? := by
      rw [List.getLast?_append, List.getLast?_eq_some_getLast hne, Option.some_or]
    rw [findWord_append_of_first first, findWord_append hne, hbefore, Bool.or_eq_true,
      Bool.and_eq_true, endsWord_iff, endsWord_iff, ← hbehind, ih, List.exists_mem_cons_iff]
    rfl

/-! ## Runs of word characters -/

/-- Word characters that stand one after the other in a text, at least one of them. -/
structure Stretch (text before run after : List Char) : Prop where
  split : text = before ++ run ++ after
  ne_nil : run ≠ []
  word : ∀ c ∈ run, isWordChar c = true

/-- **A maximal run of word characters**: a stretch of them that is taken in by no other one. -/
def MaximalRun (text run : List Char) : Prop :=
  ∃ before after, Stretch text before run after ∧
    ∀ before' run' after', Stretch text before' run' after' → before' <+: before →
      after' <:+ after → run' = run

variable {text : List Char}

/-- **The maximal runs are the words that stand alone**: a run could be longer if and only if a word
character were directly before or after it. -/
theorem maximalRun_iff_hasWord (hne : word ≠ []) (hword : ∀ c ∈ word, isWordChar c = true) :
    MaximalRun text word ↔ HasWord text word := by
  constructor
  · rintro ⟨before, after, hstretch, hmax⟩
    refine ⟨before, after, hstretch.split, fun c hc => ?_, fun c hc => ?_⟩
    · -- with the character before it the run would be longer
      rw [← Bool.not_eq_true]
      intro hchar
      obtain ⟨before', rfl⟩ := List.getLast?_eq_some_iff.mp hc
      have hlonger : Stretch text before' (c :: word) after :=
        ⟨by simp [hstretch.split], by simp, List.forall_mem_cons.mpr ⟨hchar, hword⟩⟩
      have hsame := hmax _ _ _ hlonger (List.prefix_append _ _) (List.suffix_refl _)
      exact absurd (congrArg List.length hsame) (by simp)
    · rw [← Bool.not_eq_true]
      intro hchar
      obtain ⟨after', rfl⟩ := List.head?_eq_some_iff.mp hc
      have hlonger : Stretch text before (word ++ [c]) after' := by
        refine ⟨by simp [hstretch.split], by simp, fun d hd => ?_⟩
        rcases List.mem_append.mp hd with hd | hd
        · exact hword d hd
        · rw [List.mem_singleton.mp hd]
          exact hchar
      have hsame := hmax _ _ _ hlonger (List.prefix_refl _) (List.suffix_cons _ _)
      exact absurd (congrArg List.length hsame) (by simp)
  · rintro ⟨before, after, htext, hbefore, hafter⟩
    refine ⟨before, after, ⟨htext, hne, hword⟩, ?_⟩
    rintro before' run' after' ⟨htext', -, hword'⟩ ⟨left, rfl⟩ ⟨right, rfl⟩
    obtain rfl : run' = left ++ word ++ right := by
      have hsame : before' ++ (run' ++ after') =
          before' ++ (left ++ word ++ right ++ after') := by
        rw [← List.append_assoc, ← htext', htext]
        simp only [List.append_assoc]
      exact List.append_cancel_right (List.append_cancel_left hsame)
    -- whatever else the other run takes in would end with, or begin with, a word character
    have hleft : left = [] := by
      rcases List.eq_nil_or_concat left with hnil | ⟨left, c, rfl⟩
      · exact hnil
      · have hchar := hword' c (by simp)
        rw [hbefore c (by simp)] at hchar
        contradiction
    have hright : right = [] := by
      cases right with
      | nil => rfl
      | cons c right =>
        have hchar := hword' c (by simp)
        rw [hafter c rfl] at hchar
        contradiction
    rw [hleft, hright, List.nil_append, List.append_nil]

/-- **The search finds a word exactly if it is one of the maximal runs of word characters**, and so
exactly if one of its occurrences stands alone, be it among those that the search comes upon or not.
The word is made of word characters, and there is at least one of them. -/
theorem whole_words_found (text word : String) (hne : word ≠ "")
    (hword : ∀ c ∈ word.toList, isAlphanumeric c = true ∨ c = '_') :
    (∃ os, Found word.toList [] text.toList os ∧
        (containsWord text word = true ↔ ∃ o ∈ os, o.Whole)) ∧
      (containsWord text word = true ↔
        ∃ o : Occurrence, text.toList = o.before ++ word.toList ++ o.after ∧ o.Whole) ∧
      (containsWord text word = true ↔ MaximalRun text.toList word.toList) := by
  have hnil : word.toList ≠ [] := mt String.toList_eq_nil_iff.mp hne
  have hchars : ∀ c ∈ word.toList, isWordChar c = true := by
    intro c hc
    simpa [isWordChar] using hword c hc
  have hall : containsWord text word = true ↔ HasWord text.toList word.toList :=
    containsWord_iff hnil (List.all_eq_true.mpr hchars)
  refine ⟨?_, ?_, hall.trans (maximalRun_iff_hasWord hnil hchars).symm⟩
  · obtain ⟨os, hos⟩ := exists_found hnil [] text.toList
    exact ⟨os, hos, findWord_iff_of_found hnil hos⟩
  · rw [hall]
    constructor
    · rintro ⟨before, after, htext, hbefore, hafter⟩
      exact ⟨⟨before, after⟩, htext, hbefore, hafter⟩
    · rintro ⟨o, htext, hbefore, hafter⟩
      exact ⟨o.before, o.after, htext, hbefore, hafter⟩

/-- The occurrence at the second letter is passed over, and could not stand alone. -/
theorem whole_words_found_of_overlap :
    MaximalRun "aaa (aa)".toList "aa".toList ∧ ¬ MaximalRun "aaa a".toList "aa".toList := by
  have hletters : "aa".toList.all isAlphanumeric = true := by decide
  have hword : ∀ c ∈ "aa".toList, isAlphanumeric c = true ∨ c = '_' := fun c hc =>
    .inl (List.all_eq_true.mp hletters c hc)
  obtain ⟨-, -, htwo⟩ := whole_words_found "aaa (aa)" "aa" (by decide) hword
  obtain ⟨-, -, hthree⟩ := whole_words_found "aaa a" "aa" (by decide) hword
  exact ⟨htwo.mp (by decide), fun h => absurd (hthree.mpr h) (by decide)⟩

end Conformance.Text
