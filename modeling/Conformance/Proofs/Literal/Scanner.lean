import Conformance.Proofs.Literal.Position
import Conformance.Proofs.Literal.Token

/-!
# A scan stays within its text

A scan of a text by positions comes to the literal or the error that reading it character by
character comes to. So it never panics and never goes on for too long, and every position that it
reaches or reports is within the text and between two characters.

## Main results

* `Scanner.skipWhile_comes`, `Scanner.quoted_comes`, `Scanner.slashed_comes`,
  `Scanner.digits_comes`: the loops
* `Scanner.string_comes`, `Scanner.slashPattern_comes`, `Scanner.integer_comes`: the tokens
* `Scanner.value_step`, `Scanner.items_step`: one level of the nesting
* `Scanner.value_items_comes`: values and lists, however deep they are nested
* `Scanner.scan_in_bounds`: the positions of a scan
-/

namespace Conformance.Literal.Scanner

open Text

variable {text cs cs' rest : List Char} {c : Char}

/-! ### Loops -/

section Loops

variable {s : Cursor}

theorem skipWhile_comes (p : Char → Bool) (hat : s.At text cs) {fuel : Nat}
    (hfuel : cs.length < fuel) : Comes text s (skipWhile p fuel) (.ok ((), cs.dropWhile p)) := by
  induction fuel generalizing s cs with
  | zero => contradiction
  | succ fuel ih =>
    refine .of_done (peek_eq hat) (Nat.le_refl _) ?_
    cases cs with
    | nil => exact comes_pure hat
    | cons c cs =>
      by_cases hc : p c = true
      · rw [List.head?_cons, Option.any_some, if_pos hc, List.dropWhile_cons_of_pos hc]
        refine .bump hat fun s' hat' hlt => ?_
        exact ih hat' (Nat.lt_of_succ_lt_succ hfuel)
      · rw [List.head?_cons, Option.any_some, if_neg hc, List.dropWhile_cons_of_neg hc]
        exact comes_pure hat

theorem skipBlanks_comes (hat : s.At text cs) :
    Comes text s skipBlanks (.ok ((), trimStart cs)) :=
  .bounded hat fun _ hfuel => skipWhile_comes isBlank hat hfuel

/-- A string goes on behind what was taken of it before. -/
theorem quoted_comes (raw : Bool) (quote : Char) (hat : s.At text cs) (out : List Char)
    {fuel : Nat} (hfuel : cs.length < fuel) :
    Comes text s (quoted raw quote out fuel)
      ((readQuoted raw quote cs).map fun found => (out ++ found.1, found.2)) := by
  -- by induction on the fuel: a turn takes one or two characters and leaves fuel for the others
  induction fuel generalizing s cs out with
  | zero => contradiction
  | succ fuel ih =>
    cases cs with
    | nil => exact .of_done (bump_eq_of_nil hat) (Nat.le_refl _) (comes_fail hat _)
    | cons c cs =>
      refine .bump hat fun s' hat' _ => ?_
      by_cases hquote : c = quote
      · rw [readQuoted.eq_def]
        simp only [if_pos hquote, Except.map, List.append_nil]
        exact comes_pure hat'
      by_cases hescape : c = '\\'
      · cases cs with
        | nil =>
          simp only [readQuoted, if_neg hquote, if_pos hescape]
          exact .of_done (bump_eq_of_nil hat') (Nat.le_refl _) (comes_fail hat' _)
        | cons e cs =>
          have hrest : cs.length < fuel := by simp only [List.length_cons] at hfuel; omega
          simp only [readQuoted, if_neg hquote, if_pos hescape]
          refine .bump hat' fun s'' hat'' _ => ?_
          have hcomes := ih hat'' (out ++ unescape raw e) hrest
          cases hread : readQuoted raw quote cs with
          | ok found => simpa only [hread, Except.map, List.append_assoc] using hcomes
          | error stop => simpa only [hread, Except.map] using hcomes
      · have hcomes := ih hat' (out ++ [c]) (Nat.lt_of_succ_lt_succ hfuel)
        rw [readQuoted.eq_def]
        simp only [if_neg hquote, if_neg hescape]
        cases hread : readQuoted raw quote cs with
        | ok found =>
          simpa only [hread, Except.map, List.append_assoc, List.singleton_append] using hcomes
        | error stop => simpa only [hread, Except.map] using hcomes

/-- A pattern goes on behind what was taken of it before. -/
theorem slashed_comes (hat : s.At text cs) (out : List Char) {fuel : Nat}
    (hfuel : cs.length < fuel) :
    Comes text s (slashed out fuel)
      ((readSlashed cs).map fun found => (out ++ found.1, found.2)) := by
  induction fuel generalizing s cs out with
  | zero => contradiction
  | succ fuel ih =>
    cases cs with
    | nil => exact .of_done (bump_eq_of_nil hat) (Nat.le_refl _) (comes_fail hat _)
    | cons c cs =>
      refine .bump hat fun s' hat' _ => ?_
      by_cases hslash : c = '/'
      · subst hslash
        simp only [readSlashed, if_true, Except.map, List.append_nil]
        exact comes_pure hat'
      by_cases hescape : c = '\\'
      · subst hescape
        cases cs with
        | nil =>
          simp only [readSlashed, if_neg hslash, if_true]
          exact .of_done (bump_eq_of_nil hat') (Nat.le_refl _) (comes_fail hat' _)
        | cons e cs =>
          have hrest : cs.length < fuel := by simp only [List.length_cons] at hfuel; omega
          simp only [readSlashed, if_neg hslash, if_true]
          refine .bump hat' fun s'' hat'' _ => ?_
          have hcomes := ih hat'' (out ++ if e = '/' then ['/'] else ['\\', e]) hrest
          cases hread : readSlashed cs with
          | ok found => simpa only [hread, Except.map, List.append_assoc] using hcomes
          | error stop => simpa only [hread, Except.map] using hcomes
      · have hcomes := ih hat' (out ++ [c]) (Nat.lt_of_succ_lt_succ hfuel)
        rw [readSlashed.eq_5 c cs hslash (fun h _ => hescape h) fun _ _ h _ => hescape h]
        simp only [if_neg hslash, if_neg hescape]
        cases hread : readSlashed cs with
        | ok found =>
          simpa only [hread, Except.map, List.append_assoc, List.singleton_append] using hcomes
        | error stop => simpa only [hread, Except.map] using hcomes

/-- Digits go on one character at a time. -/
theorem readDigits_cons_snd (c : Char) (cs : List Char) :
    (readDigits (c :: cs)).2 =
      if digitsGoOn (some c) cs.head? then (readDigits cs).2 else c :: cs := by
  by_cases hc : c = '_'
  · subst hc
    cases cs with
    | nil => rfl
    | cons d cs =>
      by_cases hd : isAsciiDigit d = true
      · rw [readDigits_underscore hd, readDigits_cons (ne_underscore_of_digit hd), if_pos hd,
          if_pos (by simp [digitsGoOn, hd])]
      · rw [readDigits.eq_2, if_neg (by decide), if_neg hd,
          if_neg (by simpa [digitsGoOn, hd] using by decide)]
  · have hgoes : digitsGoOn (some c) cs.head? = isAsciiDigit c := by simp [digitsGoOn, hc]
    rw [readDigits_cons hc, hgoes]
    split_ifs <;> rfl

theorem digits_comes (hat : s.At text cs) {fuel : Nat} (hfuel : cs.length < fuel) :
    Comes text s (digits fuel) (.ok ((), (readDigits cs).2)) := by
  induction fuel generalizing s cs with
  | zero => contradiction
  | succ fuel ih =>
    refine .of_done (peek_eq hat) (Nat.le_refl _)
      (.of_done (peekSecond_eq hat) (Nat.le_refl _) ?_)
    cases cs with
    | nil => exact comes_pure hat
    | cons c cs =>
      have hsecond : (c :: cs)[1]? = cs.head? := by cases cs <;> rfl
      rw [readDigits_cons_snd, List.head?_cons, hsecond]
      split_ifs with hgoes
      · refine .bump hat fun s' hat' _ => ?_
        exact ih hat' (Nat.lt_of_succ_lt_succ hfuel)
      · exact comes_pure hat

end Loops

/-! ### Tokens -/

section Tokens

variable {s s₀ : Cursor}

theorem string_comes (raw : Bool) (hat : s.At text (c :: cs)) :
    Comes text s (string raw) (asString (readQuoted raw c cs)) := by
  refine .bump hat fun s' hat' _ => ?_
  have hquoted : Comes text s' (bounded (quoted raw c [])) (readQuoted raw c cs) := by
    refine .bounded hat' fun fuel hfuel => ?_
    have hcomes := quoted_comes raw c hat' [] hfuel
    cases hread : readQuoted raw c cs <;>
      simpa only [hread, Except.map, List.nil_append] using hcomes
  cases hread : readQuoted raw c cs with
  | error stop => exact .bind_error (hread ▸ hquoted)
  | ok found => exact .bind (hread ▸ hquoted) fun s'' hat'' _ => comes_pure hat''

theorem compileAt_comes (hat₀ : s₀.At text cs) (hat : s.At text rest) (source : List Char) :
    Comes text s (compileAt source s₀.pos) (compile source cs rest) := by
  rw [compileAt, compile]
  cases Pattern.compile (String.ofList source) with
  | error reason => exact comes_failAt hat hat₀ _
  | ok p => exact comes_pure hat

/-- What is read of a pattern behind its opening slash. -/
def readSlashes (cs : List Char) : Reading Literal :=
  match readSlashed cs with
  | .ok (source, rest) => compile source ('/' :: cs) rest
  | .error e => .error e

theorem slashPattern_comes (hat : s.At text ('/' :: cs)) :
    Comes text s slashPattern (readSlashes cs) := by
  refine .of_done (m := position) rfl (Nat.le_refl _) (.bump hat fun s' hat' _ => ?_)
  have hslashed : Comes text s' (bounded (slashed [])) (readSlashed cs) := by
    refine .bounded hat' fun fuel hfuel => ?_
    have hcomes := slashed_comes hat' [] hfuel
    cases hread : readSlashed cs <;>
      simpa only [hread, Except.map, List.nil_append] using hcomes
  unfold readSlashes
  cases hread : readSlashed cs with
  | error stop => exact .bind_error (hread ▸ hslashed)
  | ok found => exact .bind (hread ▸ hslashed) fun s'' hat'' _ => compileAt_comes hat hat'' _

theorem settle_comes (negative : Bool) (ds : List Char) (hat₀ : s₀.At text cs)
    (hat : s.At text rest) :
    Comes text s (settle negative ds s₀.pos) (integerOf negative ds cs rest) := by
  unfold settle integerOf
  generalize (if negative = true then -(digitsValue ds : Int) else digitsValue ds) = n
  dsimp only
  by_cases hlarge : n > Int64.maxValue.toInt
  · rw [if_pos hlarge, if_pos hlarge]
    exact comes_failAt hat hat₀ _
  by_cases hsmall : n < Int64.minValue.toInt
  · rw [if_neg hlarge, if_pos hsmall, if_neg hlarge, if_pos hsmall]
    exact comes_failAt hat hat₀ _
  · rw [if_neg hlarge, if_neg hsmall, if_neg hlarge, if_neg hsmall]
    exact comes_pure hat

theorem integerAt_sign {sign ds : List Char} {negative : Bool} {d : Char}
    (hsign : Sign sign negative) (hd : isAsciiDigit d = true) (offset : Nat) :
    integerAt (sign ++ d :: ds) offset = settle negative (d :: ds) offset := by
  cases hsign with
  | plus => rfl
  | minus => rfl
  | none =>
    have hm : d ≠ '-' := fun h => by simp [h, isAsciiDigit] at hd
    have hp : d ≠ '+' := fun h => by simp [h, isAsciiDigit] at hd
    simp [integerAt, hm, hp]

theorem unsigned_comes {sign body : List Char} {negative : Bool} (hsign : Sign sign negative)
    (hat₀ : s₀.At text (sign ++ body)) (hat : s.At text body) :
    Comes text s (unsigned s₀.pos)
      (if body.head?.any isAsciiDigit then
        integerOf negative (readDigits body).1 (sign ++ body) (readDigits body).2
      else .error ⟨.expectedDigits, body⟩) := by
  refine .of_done (peek_eq hat) (Nat.le_refl _) ?_
  split_ifs with hdigit
  · -- the piece that is taken has the underscores, which the reading leaves out as it goes
    obtain ⟨d, cs, rfl⟩ : ∃ d cs, body = d :: cs := by cases body <;> simp_all
    rw [List.head?_cons, Option.any_some] at hdigit
    obtain ⟨written, -, hbody, hds⟩ := separated_of_readDigits cs
    have hne := ne_underscore_of_digit hdigit
    have hfirst : (readDigits (d :: cs)).1 = d :: written.filter (· ≠ '_') := by
      rw [readDigits_cons hne, if_pos hdigit, hds]
    have hrest : (readDigits (d :: cs)).2 = (readDigits cs).2 := by
      rw [readDigits_cons hne, if_pos hdigit]
    have hsigned : (sign ++ d :: written).filter (· ≠ '_') =
        sign ++ d :: written.filter (· ≠ '_') := by
      have hsign' : sign.filter (· ≠ '_') = sign := by cases hsign <;> rfl
      rw [List.filter_append, hsign', List.filter_cons_of_pos (by simpa)]
    have hloop : Comes text s (bounded digits) (.ok ((), (readDigits (d :: cs)).2)) :=
      .bounded hat fun _ hfuel => digits_comes hat hfuel
    refine .bind hloop fun s' hat' _ => ?_
    have hat₀' : s₀.At text ((sign ++ d :: written) ++ (readDigits (d :: cs)).2) := by
      rw [hrest, List.append_assoc, List.cons_append, ← hbody]
      exact hat₀
    refine .slice hat₀' hat' fun s'' hat'' _ => ?_
    rw [hsigned, hfirst, integerAt_sign hsign hdigit]
    exact settle_comes negative _ hat₀ hat''
  · exact comes_fail hat _

theorem readInteger_append {sign body : List Char} {negative : Bool} (hsign : Sign sign negative)
    (hbody : sign = [] → body.head? ≠ some '-' ∧ body.head? ≠ some '+') :
    readInteger (sign ++ body) =
      if body.head?.any isAsciiDigit then
        integerOf negative (readDigits body).1 (sign ++ body) (readDigits body).2
      else .error ⟨.expectedDigits, body⟩ := by
  cases body with
  | nil => cases hsign <;> rfl
  | cons d cs =>
    by_cases hd : isAsciiDigit d = true
    · rw [readInteger_sign hsign hd, List.head?_cons, Option.any_some, if_pos hd]
    · rw [List.head?_cons, Option.any_some, if_neg hd]
      cases hsign with
      | plus => simp [readInteger, hd]
      | minus => simp [readInteger, hd]
      | none =>
        obtain ⟨hm, hp⟩ := hbody rfl
        simp only [List.head?_cons, ne_eq, Option.some.injEq] at hm hp
        simp [readInteger, hd, hm, hp]

theorem integer_comes (hat : s.At text cs) : Comes text s integer (readInteger cs) := by
  refine .of_done (m := position) rfl (Nat.le_refl _) (.of_done (peek_eq hat) (Nat.le_refl _) ?_)
  by_cases hsign : cs.head?.any (fun c => c == '-' || c == '+') = true
  · rw [if_pos hsign]
    obtain ⟨c, body, rfl⟩ : ∃ c body, cs = c :: body := by cases cs <;> simp_all
    obtain ⟨negative, hc⟩ : ∃ negative, Sign [c] negative := by
      obtain rfl | rfl : c = '-' ∨ c = '+' := by simpa using hsign
      · exact ⟨true, .minus⟩
      · exact ⟨false, .plus⟩
    have hread : readInteger ([c] ++ body) = _ := readInteger_append hc nofun
    rw [List.singleton_append] at hread
    rw [hread]
    exact .bump hat fun s' hat' _ => unsigned_comes hc hat hat'
  · have hunsigned : cs.head? ≠ some '-' ∧ cs.head? ≠ some '+' := by
      constructor <;> (intro hhead; simp [hhead] at hsign)
    have hread : readInteger ([] ++ cs) = _ := readInteger_append .none fun _ => hunsigned
    rw [List.nil_append] at hread
    rw [if_neg hsign, hread]
    exact unsigned_comes .none hat hat

end Tokens

/-! ### Values -/

section Values

variable {s : Cursor}

/-- A scan of a nested value comes to what its reading says, wherever less than so many characters
are left. -/
def ComesBelow (text : List Char) (bound : Nat) (m : Scan Literal)
    (read : List Char → Reading Literal) : Prop :=
  ∀ s cs, s.At text cs → cs.length < bound → Comes text s m (read cs)

/-- What is read behind the name of a pattern. -/
def readParentheses (fuel : Nat) (cs : List Char) : Reading Literal :=
  match trimStart cs with
  | '(' :: inner =>
    let start := trimStart inner
    match readValue fuel start with
    | .error e => .error e
    | .ok (.string source, rest) =>
      match trimStart rest with
      | ')' :: rest => compile source.toList start rest
      | rest => .error ⟨.expectedClosing, rest⟩
    | .ok (other, _) => .error ⟨.patternFromOther other.kind, start⟩
  | rest => .error ⟨.expectedOpening, rest⟩

theorem readWord_succ (fuel : Nat) (cs : List Char) :
    readWord (fuel + 1) cs =
      let word := cs.takeWhile continuesWord
      let rest := cs.dropWhile continuesWord
      if word = "True".toList ∨ word = "true".toList then .ok (.boolean true, rest)
      else if word = "False".toList ∨ word = "false".toList then .ok (.boolean false, rest)
      else if word = "re.compile".toList then readParentheses fuel rest
      else .error ⟨.unsupportedExpression word, cs⟩ := by
  rw [readWord]
  rfl

theorem compileCall_comes {fuel outer : Nat} {nested : Scan Literal} (hat : s.At text cs)
    (houter : outer ≤ s.pos) (hnested : ComesBelow text cs.length nested (readValue fuel)) :
    Comes text s (compileCall nested outer) (readParentheses fuel cs) := by
  refine .bind (skipBlanks_comes hat) fun s₁ hat₁ hle₁ => ?_
  unfold readParentheses
  split
  · next inner hopen =>
    rw [hopen] at hat₁
    refine .eat hat₁ fun s₂ hat₂ hlt₂ => ?_
    simp only [if_true]
    refine .bind (skipBlanks_comes hat₂) fun s₃ hat₃ hle₃ => ?_
    refine .of_done (m := position) rfl (Nat.le_refl _) ?_
    -- the parenthesis is between the begin of the pattern and that of the value in it
    refine .nest hat₃ (Nat.le_refl _) (by omega) fun s₄ hat₄ hpos₄ => ?_
    have hbelow := hnested s₄ _ hat₄ (hat.length_lt hat₄ (by omega))
    split
    · next stop hread => exact .bind_error (hread ▸ hbelow)
    · next source rest hread =>
      refine .bind (hread ▸ hbelow) fun s₅ hat₅ _ => ?_
      refine .bind (skipBlanks_comes hat₅) fun s₆ hat₆ _ => ?_
      split
      · next rest' hclose =>
        rw [hclose] at hat₆
        refine .eat hat₆ fun s₇ hat₇ _ => ?_
        exact compileAt_comes hat₃ hat₇ _
      · next hclose =>
        exact .eat_of_ne hat₆ hclose (comes_fail hat₆ _)
    · next other rest hother hread =>
      refine .bind (hread ▸ hbelow) fun s₅ hat₅ _ => ?_
      cases other with
      | string source => exact absurd rfl (hother source)
      | boolean | integer | list | pattern => exact comes_failAt hat₅ hat₃ _
  · next hopen =>
    exact .eat_of_ne hat₁ hopen (comes_fail hat₁ _)

theorem word_comes_of_raw {outer : Nat} {nested : Scan Literal} {q : Char} (hq : isQuote q)
    (hat : s.At text ('r' :: q :: cs)) :
    Comes text s (word nested outer) (asString (readQuoted true q cs)) := by
  refine .of_done (peek_eq hat) (Nat.le_refl _) (.of_done (peekSecond_eq hat) (Nat.le_refl _) ?_)
  rw [if_pos ⟨rfl, hq⟩]
  exact .bump hat fun s' hat' _ => string_comes true hat'

theorem word_comes {fuel outer : Nat} {nested : Scan Literal} (hat : s.At text cs)
    (hplain : ¬ (cs.head? = some 'r' ∧ cs[1]?.any isQuote)) (houter : outer ≤ s.pos)
    (hnested : ComesBelow text cs.length nested (readValue fuel)) :
    Comes text s (word nested outer) (readWord (fuel + 1) cs) := by
  refine .of_done (peek_eq hat) (Nat.le_refl _) (.of_done (peekSecond_eq hat) (Nat.le_refl _) ?_)
  rw [if_neg hplain, readWord_succ]
  refine .of_done (m := position) rfl (Nat.le_refl _) ?_
  have hloop : Comes text s (bounded (skipWhile continuesWord))
      (.ok ((), cs.dropWhile continuesWord)) :=
    .bounded hat fun _ hfuel => skipWhile_comes continuesWord hat hfuel
  refine .bind hloop fun s₁ hat₁ hle₁ => ?_
  have hwhole : s.At text (cs.takeWhile continuesWord ++ cs.dropWhile continuesWord) := by
    rwa [List.takeWhile_append_dropWhile]
  refine .slice hwhole hat₁ fun s₂ hat₂ hpos₂ => ?_
  dsimp only
  split_ifs
  · exact comes_pure hat₂
  · exact comes_pure hat₂
  · refine compileCall_comes hat₂ (by omega) fun s₃ cs₃ hat₃ hlt₃ => hnested s₃ cs₃ hat₃ ?_
    exact lt_of_lt_of_le hlt₃ (hat.length_le hat₂ (by omega))
  · exact comes_failAt hat₂ hat _

/-- What is read of a list behind its opening bracket. -/
def readBrackets (fuel : Nat) (cs : List Char) : Reading Literal :=
  match trimStart cs with
  | ']' :: rest => .ok (.list [], rest)
  | rest => readItems fuel [] rest

theorem list_comes {fuel : Nat} {items : Scan Literal} (hat : s.At text (c :: cs))
    (hitems : ∀ s' cs', s'.At text cs' → s.pos < s'.pos →
      Comes text s' items (readItems fuel [] cs')) :
    Comes text s (list items) (readBrackets fuel cs) := by
  refine .bump hat fun s₁ hat₁ hlt₁ => ?_
  refine .bind (skipBlanks_comes hat₁) fun s₂ hat₂ hle₂ => ?_
  unfold readBrackets
  split
  · next rest hclose =>
    rw [hclose] at hat₂
    exact .eat hat₂ fun s₃ hat₃ _ => comes_pure hat₃
  · next hclose =>
    exact .eat_of_ne hat₂ hclose (hitems s₂ _ hat₂ (by omega))

theorem items_step {fuel fuel' outer previous : Nat} {taken : List String} (hat : s.At text cs)
    (houter : outer ≤ previous) (hprevious : previous < s.pos)
    (hvalue : ∀ s' cs', s'.At text cs' → cs'.length ≤ cs.length →
      Comes text s' (value fuel) (readValue fuel' cs'))
    (hitems : ∀ previous taken s' cs', s'.At text cs' → cs'.length < cs.length →
      outer ≤ previous → previous < s'.pos →
      Comes text s' (items outer previous taken fuel) (readItems fuel' taken cs')) :
    Comes text s (items outer previous taken (fuel + 1)) (readItems (fuel' + 1) taken cs) := by
  rw [items, readItems]
  refine .bind (skipBlanks_comes hat) fun s₁ hat₁ hle₁ => ?_
  refine .of_done (m := position) rfl (Nat.le_refl _) ?_
  refine .nest hat₁ houter (by omega) fun s₂ hat₂ hpos₂ => ?_
  have hnested := hvalue s₂ _ hat₂ (hat.length_le hat₂ (by omega))
  split
  · next stop hread => exact .bind_error (hread ▸ hnested)
  · next item rest hread =>
    refine .bind (hread ▸ hnested) fun s₃ hat₃ hle₃ => ?_
    refine .bind (skipBlanks_comes hat₃) fun s₄ hat₄ hle₄ => ?_
    split
    · next rest' hcomma =>
      rw [hcomma] at hat₄
      refine .eat hat₄ fun s₅ hat₅ hlt₅ => ?_
      refine .bind (skipBlanks_comes hat₅) fun s₆ hat₆ hle₆ => ?_
      split
      · next rest'' hclose =>
        rw [hclose] at hat₆
        exact .eat hat₆ fun s₇ hat₇ _ => comes_pure hat₇
      · next hclose =>
        -- the next item is behind a comma, and so behind the begin of this one
        refine .eat_of_ne hat₆ hclose ?_
        exact hitems _ _ s₆ _ hat₆ (hat.length_lt hat₆ (by omega)) (by omega) (by omega)
    · next rest' hclose =>
      rw [hclose] at hat₄
      refine .eat_of_ne hat₄ (by simp) ?_
      exact .eat hat₄ fun s₅ hat₅ _ => comes_pure hat₅
    · next hcomma hclose =>
      exact .eat_of_ne hat₄ hcomma (.eat_of_ne hat₄ hclose (comes_fail hat₄ _))
  · next other rest hother hread =>
    refine .bind (hread ▸ hnested) fun s₃ hat₃ _ => ?_
    cases other with
    | string source => exact absurd rfl (hother source)
    | boolean | integer | list | pattern => exact comes_failAt hat₃ hat₁ _

/-- What is read of a word or a raw string. -/
def readName (fuel : Nat) (c : Char) (cs : List Char) : Reading Literal :=
  match c, cs with
  | 'r', q :: body =>
    if isQuote q then asString (readQuoted true q body) else readWord fuel (c :: cs)
  | _, _ => readWord fuel (c :: cs)

theorem readValue_of_nil (h : trimStart cs = []) (fuel : Nat) :
    readValue (fuel + 1) cs = .error ⟨.expectedLiteral, []⟩ := by
  rw [readValue, h]

theorem readValue_of_cons (h : trimStart cs = c :: rest) (fuel : Nat) :
    readValue (fuel + 1) cs =
      if c = '[' then readBrackets fuel rest
      else if isQuote c then asString (readQuoted false c rest)
      else if c = '/' then readSlashes rest
      else if beginsInteger c then readInteger (c :: rest)
      else if isAlphabetic c || c == '_' then readName fuel c rest
      else .error ⟨.unexpectedCharacter c, c :: rest⟩ := by
  rw [readValue, h]
  by_cases hlist : c = '['
  · subst hlist
    rfl
  by_cases hslash : c = '/'
  · subst hslash
    rfl
  rw [if_neg hlist, if_neg hslash]
  split
  · contradiction
  · next rest' heq => exact absurd (List.cons.inj heq).1 hlist
  · next rest' heq => exact absurd (List.cons.inj heq).1 hslash
  · next c' rest' _ _ heq =>
    obtain ⟨rfl, rfl⟩ := List.cons.inj heq
    rfl

theorem name_comes {fuel outer : Nat} {nested : Scan Literal} (hat : s.At text (c :: cs))
    (houter : outer ≤ s.pos) (hnested : ComesBelow text (c :: cs).length nested (readValue fuel)) :
    Comes text s (word nested outer) (readName (fuel + 1) c cs) := by
  unfold readName
  split
  · next q body =>
    split_ifs with hq
    · exact word_comes_of_raw hq hat
    · exact word_comes hat (by simpa using hq) houter hnested
  · next hraw =>
    refine word_comes hat ?_ houter hnested
    rintro ⟨hr, hq⟩
    cases cs with
    | nil => simp at hq
    | cons q body => exact hraw q body (Option.some.inj hr) rfl

theorem value_step {fuel fuel' : Nat} (hat : s.At text cs)
    (hnested : ComesBelow text cs.length (value fuel) (readValue fuel'))
    (hitems : ∀ outer s' cs', s'.At text cs' → cs'.length < cs.length → outer < s'.pos →
      Comes text s' (items outer outer [] fuel) (readItems (fuel' + 1) [] cs')) :
    Comes text s (value (fuel + 1)) (readValue (fuel' + 2) cs) := by
  rw [value]
  refine .of_done (m := position) rfl (Nat.le_refl _) ?_
  refine .bind (skipBlanks_comes hat) fun s₁ hat₁ hle₁ => ?_
  refine .of_done (peek_eq hat₁) (Nat.le_refl _) ?_
  have hlength := hat.length_le hat₁ hle₁
  cases htrim : trimStart cs with
  | nil =>
    rw [readValue_of_nil htrim]
    rw [htrim] at hat₁
    exact comes_fail hat₁ _
  | cons c rest =>
    rw [readValue_of_cons htrim, List.head?_cons]
    rw [htrim] at hat₁ hlength
    dsimp only
    split_ifs
    · refine list_comes hat₁ fun s' cs' hat' hlt => ?_
      exact hitems _ s' cs' hat' (hat.length_lt hat' (by omega)) (by omega)
    · exact string_comes false hat₁
    · next hslash =>
      subst hslash
      exact slashPattern_comes hat₁
    · exact integer_comes hat₁
    · exact name_comes hat₁ hle₁ fun s' cs' hat' hlt => hnested s' cs' hat' (by omega)
    · exact comes_fail hat₁ _

/-- **A scan of a value comes to what its reading says**, and so does a scan of items, if there is
fuel enough for both. -/
theorem value_items_comes (n : Nat) :
    (∀ fuel fuel' s cs, Cursor.At text s cs → cs.length = n → 3 * n + 3 ≤ fuel →
      3 * n + 3 ≤ fuel' → Comes text s (value fuel) (readValue fuel' cs)) ∧
    ∀ fuel fuel' outer previous taken s cs, Cursor.At text s cs → cs.length = n →
      outer ≤ previous → previous < s.pos → 3 * n + 4 ≤ fuel → 3 * n + 4 ≤ fuel' →
      Comes text s (items outer previous taken fuel) (readItems fuel' taken cs) := by
  -- by induction on what is left of the text: a nested value or a further item has less of it
  induction n using Nat.strong_induction_on with
  | _ n ih =>
    have hvalue : ∀ fuel fuel' s cs, Cursor.At text s cs → cs.length = n → 3 * n + 3 ≤ fuel →
        3 * n + 3 ≤ fuel' → Comes text s (value fuel) (readValue fuel' cs) := by
      intro fuel fuel' s cs hat hn hfuel hfuel'
      obtain ⟨fuel, rfl⟩ : ∃ k, fuel = k + 1 := ⟨fuel - 1, by omega⟩
      obtain ⟨fuel', rfl⟩ : ∃ k, fuel' = k + 2 := ⟨fuel' - 2, by omega⟩
      refine value_step hat (fun s' cs' hat' hlt => ?_) fun outer s' cs' hat' hlt houter => ?_
      · exact (ih cs'.length (by omega)).1 _ _ s' cs' hat' rfl (by omega) (by omega)
      · exact (ih cs'.length (by omega)).2 _ _ _ _ _ s' cs' hat' rfl (Nat.le_refl _) houter
          (by omega) (by omega)
    refine ⟨hvalue, ?_⟩
    intro fuel fuel' outer previous taken s cs hat hn houter hprevious hfuel hfuel'
    obtain ⟨fuel, rfl⟩ : ∃ k, fuel = k + 1 := ⟨fuel - 1, by omega⟩
    obtain ⟨fuel', rfl⟩ : ∃ k, fuel' = k + 1 := ⟨fuel' - 1, by omega⟩
    refine items_step hat houter hprevious (fun s' cs' hat' hle => ?_)
      fun previous' taken' s' cs' hat' hlt houter' hprevious' => ?_
    · -- an item may begin where its list goes on, and then it has the same rest with less fuel
      rcases Nat.lt_or_eq_of_le hle with hlt | heq
      · exact (ih cs'.length (by omega)).1 _ _ s' cs' hat' rfl (by omega) (by omega)
      · exact hvalue _ _ s' cs' hat' (by omega) (by omega) (by omega)
    · exact (ih cs'.length (by omega)).2 _ _ _ _ _ s' cs' hat' rfl houter' hprevious'
        (by omega) (by omega)

end Values

/-! ### Whole texts -/

theorem whole_comes {s : Cursor} (hat : s.At text text) :
    Comes text s (whole text) ((readAll text).map fun v => (v, [])) := by
  have hvalue := (value_items_comes text.length).1 (fuelFor text) (fuelFor text) s text hat rfl
    (Nat.le_refl _) (Nat.le_refl _)
  rw [readAll]
  cases hread : readValue (fuelFor text) text with
  | error stop => exact .bind_error (hread ▸ hvalue)
  | ok found =>
    obtain ⟨v, rest⟩ := found
    refine .bind (hread ▸ hvalue) fun s₁ hat₁ _ => ?_
    refine .bind (skipBlanks_comes hat₁) fun s₂ hat₂ _ => ?_
    refine .of_done (m := position) rfl (Nat.le_refl _) ?_
    dsimp only
    cases hrest : trimStart rest with
    | nil =>
      rw [hrest] at hat₂
      rw [if_pos (by rw [hat₂.pos_eq, byteLength_nil, Nat.sub_zero])]
      exact comes_pure hat₂
    | cons c cs =>
      rw [hrest] at hat₂
      obtain ⟨before, rfl, hpos⟩ := hat₂.split
      have hbehind := c.utf8Size_pos
      rw [if_neg (by rw [hpos, byteLength_append, byteLength_cons]; omega)]
      exact comes_fail hat₂ _

theorem cursor_at_start (text : List Char) : Cursor.At text ⟨0, [.reached 0]⟩ text where
  split := ⟨[], rfl, rfl⟩
  sound step hstep := by
    rw [List.mem_singleton.mp hstep]
    exact ⟨[], text, rfl, rfl⟩

/-- The outcome that a literal or an error is. -/
def Outcome.ofExcept {α : Type} : Except Error α → Outcome α
  | .ok v => .done v
  | .error e => .failed e

theorem scan_comes (text : String) :
    (scan text).1 = .ofExcept (parse text) ∧
      (∀ step ∈ (scan text).2.log, step.Sound text.toList) ∧
      ∀ e, parse text = .error e → Boundary text.toList e.offset := by
  have hcomes := whole_comes (cursor_at_start text.toList)
  rw [parse, parseChars]
  cases hread : readAll text.toList with
  | ok v =>
    rw [hread] at hcomes
    obtain ⟨s', hrun, hat, -⟩ := hcomes
    rw [scan, hrun]
    exact ⟨rfl, hat.sound, nofun⟩
  | error stop =>
    rw [hread] at hcomes
    obtain ⟨s', hrun, hsound, before, hsuffix⟩ := hcomes
    rw [scan, hrun]
    refine ⟨rfl, hsound, fun e he => ?_⟩
    obtain rfl := Except.error.inj he
    refine ⟨before, stop.rest, hsuffix.symm, ?_⟩
    rw [← hsuffix, byteLength_append, Nat.add_sub_cancel]

/-- **A scan never leaves the text and never cuts a character.** A scan of any text by positions
comes to the literal or the error that reading the text comes to; so it does not panic, and no loop
or nesting goes on for longer than the text allows. Every position that is reached is within the
text and valid; the pieces that are taken are between valid positions in order; a value inside
another one is begun at a valid position behind that of the other one, and of the value before it;
and an error is at a valid position within the text. -/
theorem scan_in_bounds (text : String) :
    (scan text).1 = .ofExcept (parse text) ∧
      (∀ pos, .reached pos ∈ (scan text).2.log →
        pos ≤ text.utf8ByteSize ∧ String.Pos.Raw.IsValid text ⟨pos⟩) ∧
      (∀ start stop, .taken start stop ∈ (scan text).2.log → start ≤ stop ∧
        String.Pos.Raw.IsValid text ⟨start⟩ ∧ String.Pos.Raw.IsValid text ⟨stop⟩) ∧
      (∀ outer previous start, .nested outer previous start ∈ (scan text).2.log →
        outer ≤ previous ∧ previous < start ∧ String.Pos.Raw.IsValid text ⟨start⟩) ∧
      ∀ e, parse text = .error e →
        e.offset ≤ text.utf8ByteSize ∧ String.Pos.Raw.IsValid text ⟨e.offset⟩ := by
  obtain ⟨houtcome, hsound, herror⟩ := scan_comes text
  refine ⟨houtcome, fun pos hstep => ?_, fun start stop hstep => ?_,
    fun outer previous start hstep => ?_, fun e he => ?_⟩
  · have hvalid := boundary_iff_isValid.mp (hsound _ hstep)
    exact ⟨hvalid.le_utf8ByteSize, hvalid⟩
  · obtain ⟨hle, hstart, hstop⟩ := hsound _ hstep
    exact ⟨hle, boundary_iff_isValid.mp hstart, boundary_iff_isValid.mp hstop⟩
  · obtain ⟨hle, hlt, hstart⟩ := hsound _ hstep
    exact ⟨hle, hlt, boundary_iff_isValid.mp hstart⟩
  · have hvalid := boundary_iff_isValid.mp (herror e he)
    exact ⟨hvalid.le_utf8ByteSize, hvalid⟩

-- the accented letter takes two bytes, and position 3 is inside of it
example : (scan "['é']").2.log = [.reached 0, .reached 1, .nested 0 0 1, .reached 2, .reached 4,
    .reached 5, .reached 6] := by
  decide

end Conformance.Literal.Scanner
