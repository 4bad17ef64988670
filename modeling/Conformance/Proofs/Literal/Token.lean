import Conformance.Proofs.Literal.Grammar
import Mathlib.Data.List.Induction

/-!
# Reading the tokens of literals

The readers of strings, of what stands between slashes and of integers consume exactly what the
grammar allows and return its value. A string and a pattern end with their own delimiter, so that
what is left is determined. An integer takes as many digits as there are, so it has to be stated
what stands behind it.

## Main results

* `readQuoted_eq_ok_iff`, `readSlashed_eq_ok_iff`: strings and patterns
* `integerText_of_readInteger`, `readInteger_of_integerText`: integers
-/

namespace Conformance.Literal

open Text

/-! ## Strings -/

theorem unescape_eq_pairValue (raw : Bool) (e : Char) : unescape raw e = pairValue raw e := by
  cases raw with
  | true => rfl
  | false =>
    unfold unescape
    split
    · contradiction
    · split
      iterate 7 rfl
      next hn ht hr h0 hb hs hd =>
        have hnone : escapes.lookup e = none := by
          rw [List.lookup_eq_none_iff]
          simpa [escapes] using ⟨hn, ht, hr, h0, hb, hs, hd⟩
        unfold pairValue
        rw [hnone]

variable {raw : Bool} {quote : Char} {cs rest value : List Char}

theorem quoted_of_readQuoted (h : readQuoted raw quote cs = .ok (value, rest)) :
    ∃ text, Quoted raw quote text value ∧ cs = text ++ quote :: rest := by
  fun_induction readQuoted raw quote cs generalizing value with
  | case1 | case3 | case5 | case7 => cases h
  | case2 cs =>
    cases h
    exact ⟨[], .nil, rfl⟩
  | case4 e cs s rest' hread hb ih =>
    cases h
    obtain ⟨text, htext, rfl⟩ := ih hread
    rw [unescape_eq_pairValue]
    exact ⟨_, .pair e htext, rfl⟩
  | case6 c cs hc hb s rest' hread ih =>
    cases h
    obtain ⟨text, htext, rfl⟩ := ih hread
    exact ⟨_, .plain hb hc htext, rfl⟩

theorem readQuoted_of_quoted {text : List Char} (hq : quote ≠ '\\')
    (h : Quoted raw quote text value) (rest : List Char) :
    readQuoted raw quote (text ++ quote :: rest) = .ok (value, rest) := by
  induction h with
  | nil =>
    unfold readQuoted
    simp
  | plain hc hcq _ ih =>
    unfold readQuoted
    simp [hc, hcq, ih]
  | pair e _ ih => simp [readQuoted, hq.symm, ih, unescape_eq_pairValue]

/-- **The rest of a string behind its opening quote** is its items and the closing quote. -/
theorem readQuoted_eq_ok_iff (hq : quote ≠ '\\') :
    readQuoted raw quote cs = .ok (value, rest) ↔
      ∃ text, Quoted raw quote text value ∧ cs = text ++ quote :: rest := by
  refine ⟨quoted_of_readQuoted, ?_⟩
  rintro ⟨text, h, rfl⟩
  exact readQuoted_of_quoted hq h rest

/-! ## Slashed patterns -/

theorem slashed_of_readSlashed (h : readSlashed cs = .ok (value, rest)) :
    ∃ text, Slashed text value ∧ cs = text ++ '/' :: rest := by
  fun_induction readSlashed cs generalizing value with
  | case1 => cases h
  | case2 cs =>
    cases h
    exact ⟨[], .nil, rfl⟩
  | case3 => cases h
  | case4 e cs s rest' hread ih =>
    cases h
    obtain ⟨text, htext, rfl⟩ := ih hread
    by_cases he : e = '/'
    · subst he
      exact ⟨_, .slash htext, rfl⟩
    · exact ⟨_, by simpa [he] using .pair he htext, rfl⟩
  | case5 => cases h
  | case6 c cs hslash hlast hpair s rest' hread ih =>
    cases h
    obtain ⟨text, htext, rfl⟩ := ih hread
    refine ⟨_, .plain ?_ hslash htext, rfl⟩
    rintro rfl
    cases text <;> exact hpair _ _ rfl rfl
  | case7 => cases h

theorem readSlashed_of_slashed {text : List Char} (h : Slashed text value) (rest : List Char) :
    readSlashed (text ++ '/' :: rest) = .ok (value, rest) := by
  induction h with
  | nil => rfl
  | @plain c text value hc hs _ ih =>
    rw [List.cons_append, readSlashed.eq_5]
    · rw [ih]
    · exact hs
    · exact fun h => absurd h hc
    · exact fun _ _ h => absurd h hc
  | slash _ ih => simp [readSlashed, ih]
  | pair he _ ih => simp [readSlashed, ih, he]

/-- **The rest of a pattern behind its opening slash** is its items and the closing slash. -/
theorem readSlashed_eq_ok_iff :
    readSlashed cs = .ok (value, rest) ↔ ∃ text, Slashed text value ∧ cs = text ++ '/' :: rest := by
  refine ⟨slashed_of_readSlashed, ?_⟩
  rintro ⟨text, h, rfl⟩
  exact readSlashed_of_slashed h rest

/-! ## Integers -/

/-- The text does not begin with a character that would continue a word or a number. -/
def EndsWord (rest : List Char) : Prop :=
  ∀ c ∈ rest.head?, continuesWord c = false

theorem continuesWord_of_digit {c : Char} (h : isAsciiDigit c = true) : continuesWord c = true := by
  have hlt : c.toNat < 128 := by
    have hle : c ≤ '9' := by simpa using (Bool.and_eq_true_iff.mp h).2
    have hnat : c.toNat ≤ '9'.toNat := hle
    exact Nat.lt_of_le_of_lt hnat (by decide)
  simp [continuesWord, isAlphanumeric, isNumeric, hlt, h]

theorem ne_underscore_of_digit {c : Char} (h : isAsciiDigit c = true) : c ≠ '_' := by
  rintro rfl
  exact absurd h (by decide)

/-- A character that is no underscore before others is read by itself. -/
theorem readDigits_cons {c : Char} (hc : c ≠ '_') (cs : List Char) :
    readDigits (c :: cs) = if isAsciiDigit c = true then
      (c :: (readDigits cs).1, (readDigits cs).2) else ([], c :: cs) :=
  readDigits.eq_3 c cs fun _ _ h => absurd h hc

theorem readDigits_underscore {d : Char} (hd : isAsciiDigit d = true) (cs : List Char) :
    readDigits ('_' :: d :: cs) = (d :: (readDigits cs).1, (readDigits cs).2) := by
  rw [readDigits.eq_2, if_neg (by decide), if_pos hd]

theorem readDigits_of_endsWord (h : EndsWord rest) : readDigits rest = ([], rest) := by
  cases rest with
  | nil => rfl
  | cons c cs =>
    have hc : continuesWord c = false := h c rfl
    have hne : c ≠ '_' := by
      rintro rfl
      exact absurd hc (by decide)
    have hd : ¬ isAsciiDigit c = true := fun hd => by
      simp [continuesWord_of_digit hd] at hc
    rw [readDigits_cons hne, if_neg hd]

/-- The reader of digits takes all of them, without their underscores. -/
theorem readDigits_of_separated {text : List Char} (h : Separated text) (hend : EndsWord rest) :
    readDigits (text ++ rest) = (text.filter (· ≠ '_'), rest) := by
  induction h with
  | nil => exact readDigits_of_endsWord hend
  | digit hd _ ih =>
    have hne := ne_underscore_of_digit hd
    rw [List.cons_append, readDigits_cons hne, if_pos hd, ih, List.filter_cons_of_pos (by simpa)]
  | underscore hd _ ih =>
    have hne := ne_underscore_of_digit hd
    rw [List.cons_append, List.cons_append, readDigits_underscore hd, ih,
      List.filter_cons_of_neg (by simp), List.filter_cons_of_pos (by simpa)]

theorem separated_of_readDigits (cs : List Char) :
    ∃ text, Separated text ∧ cs = text ++ (readDigits cs).2 ∧
      (readDigits cs).1 = text.filter (· ≠ '_') := by
  fun_induction readDigits cs with
  | case1 => exact ⟨[], .nil, rfl, rfl⟩
  | case2 d cs hd ds rest hread ih =>
    rw [hread] at ih
    obtain ⟨text, htext, hcs, hds⟩ := ih
    have hne := ne_underscore_of_digit hd
    refine ⟨d :: text, .digit hd htext, congrArg (d :: ·) hcs, ?_⟩
    rw [List.filter_cons_of_pos (by simpa)]
    exact congrArg (d :: ·) hds
  | case3 d cs hd ds rest hread hu ih =>
    rw [hread] at ih
    obtain ⟨text, htext, hcs, hds⟩ := ih
    have hne := ne_underscore_of_digit hd
    refine ⟨'_' :: d :: text, .underscore hd htext, congrArg ('_' :: d :: ·) hcs, ?_⟩
    rw [List.filter_cons_of_neg (by simp), List.filter_cons_of_pos (by simpa)]
    exact congrArg (d :: ·) hds
  | case4 d cs hd hu => exact ⟨[], .nil, rfl, rfl⟩
  | case5 c cs hd hu => exact ⟨[], .nil, rfl, rfl⟩

/-- The value that is summed up from the left is the decimal value. -/
theorem digitsValue_eq_ofDigits (ds : List Char) :
    digitsValue ds = Nat.ofDigits 10 (ds.reverse.map fun d => d.toNat - '0'.toNat) := by
  induction ds using List.reverseRecOn with
  | nil => rfl
  | append_singleton ds d ih =>
    have hsnoc : digitsValue (ds ++ [d]) = digitsValue ds * 10 + (d.toNat - '0'.toNat) := by
      simp [digitsValue]
    rw [hsnoc, ih, List.reverse_append, List.reverse_singleton, List.singleton_append,
      List.map_cons, Nat.ofDigits_cons]
    omega

theorem digitsValue_filter (text : List Char) :
    digitsValue (text.filter (· ≠ '_')) = decimalValue text :=
  digitsValue_eq_ofDigits _

variable {v : Literal}

/-- An integer is had from its sign and its digits exactly if it fits into 64 bits. -/
theorem integerOf_eq_ok_iff {negative : Bool} {ds start rest' : List Char} :
    integerOf negative ds start rest = .ok (v, rest') ↔ ∃ i : Int64, v = .integer i ∧
      i.toInt = (if negative = true then -(digitsValue ds : Int) else digitsValue ds) ∧
      rest' = rest := by
  unfold integerOf
  generalize (if negative = true then -(digitsValue ds : Int) else digitsValue ds) = n
  rw [Int64.toInt_maxValue, Int64.toInt_minValue]
  constructor
  · intro h
    dsimp only at h
    split at h
    · cases h
    · split at h
      · cases h
      · cases h
        exact ⟨_, rfl, Int64.toInt_ofInt_of_le (by omega) (by omega), rfl⟩
  · rintro ⟨i, rfl, rfl, rfl⟩
    have hle := i.le_toInt
    have hlt := i.toInt_lt
    rw [if_neg (by omega), if_neg (by omega), Int64.ofInt_toInt]

theorem readInteger_sign {sign : List Char} {negative : Bool} {d : Char} (hs : Sign sign negative)
    (hd : isAsciiDigit d = true) (cs : List Char) :
    readInteger (sign ++ d :: cs) =
      integerOf negative (readDigits (d :: cs)).1 (sign ++ d :: cs) (readDigits (d :: cs)).2 := by
  cases hs with
  | plus => simp [readInteger, hd]
  | minus => simp [readInteger, hd]
  | none =>
    have hm : d ≠ '-' := fun h => by simp [h, isAsciiDigit] at hd
    have hp : d ≠ '+' := fun h => by simp [h, isAsciiDigit] at hd
    simp [readInteger, hd, hm, hp]

theorem sign_of_readInteger (h : readInteger cs = .ok (v, rest)) :
    ∃ sign negative d body, Sign sign negative ∧ isAsciiDigit d = true ∧
      cs = sign ++ d :: body := by
  unfold readInteger at h
  split at h
  next heq =>
    split at h
    · split at h
      · next hd =>
        -- the sign was split off before the digit was looked at
        split at heq
        all_goals cases heq
        · exact ⟨_, _, _, _, .minus, hd, rfl⟩
        · exact ⟨_, _, _, _, .plus, hd, rfl⟩
        · exact ⟨_, _, _, _, .none, hd, rfl⟩
      · cases h
    · cases h

/-- What is read as an integer is one, and the value is its own. -/
theorem integerText_of_readInteger (h : readInteger cs = .ok (v, rest)) :
    ∃ (text : List Char) (i : Int64), IntegerText text i.toInt ∧ v = .integer i ∧
      cs = text ++ rest := by
  obtain ⟨sign, negative, d, body, hs, hd, rfl⟩ := sign_of_readInteger h
  rw [readInteger_sign hs hd, integerOf_eq_ok_iff] at h
  obtain ⟨i, rfl, hi, rfl⟩ := h
  obtain ⟨text, htext, hbody, hds⟩ := separated_of_readDigits body
  have hne := ne_underscore_of_digit hd
  have hread : (readDigits (d :: body)).1 = (d :: text).filter (· ≠ '_') := by
    rw [readDigits_cons hne, if_pos hd, List.filter_cons_of_pos (by simpa), hds]
  refine ⟨sign ++ d :: text, i, ?_, rfl, ?_⟩
  · rw [hi, hread, digitsValue_filter]
    exact .intro hs hd htext
  · rw [readDigits_cons hne, if_pos hd]
    simpa using hbody

/-- An integer is read with its value, if the text does not go on with a digit or an underscore. -/
theorem readInteger_of_integerText {text : List Char} {i : Int64} (h : IntegerText text i.toInt)
    (hend : EndsWord rest) : readInteger (text ++ rest) = .ok (.integer i, rest) := by
  generalize hn : i.toInt = n at h
  obtain ⟨hs, hd, htext⟩ := h
  rw [List.append_assoc, List.cons_append, readInteger_sign hs hd, ← List.cons_append,
    readDigits_of_separated (.digit hd htext) hend, integerOf_eq_ok_iff]
  exact ⟨i, rfl, by rw [hn, digitsValue_filter], rfl⟩

end Conformance.Literal
