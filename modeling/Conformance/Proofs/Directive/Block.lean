import Conformance.Job
import Conformance.Proofs.Literal.Reading
import Conformance.Proofs.Text.Lines
import Mathlib.Data.List.Forall2

/-!
# The leading block of directives

What a line has to look like to state a directive, without regard to how it is taken apart, and what
the directives of a text are by that. Only the leading run of such lines counts: a line of another
shape ends it for good, and nothing behind that line is looked at. The first line of the run whose
value is no literal is the one that is complained about.

## Main definitions

* `Shape`: a line of the shape of a directive, with its key and what stands behind its colon
* `Leading`: the longest run of lines of that shape at the start of others
* `States`: a line states a directive

## Main results

* `splitLine_eq_some_iff`: the lines of the right shape are those that can be split
* `exists_leading`: there is always a leading run, if only an empty one
* `ofBlock_eq_ok_iff`, `ofBlock_eq_error_iff`: the reading of the run
* `directives_of_leading`: the directives of a text are those that its leading run states
-/

namespace Conformance.Directive

open Text
open Literal (Blanks)

/-! ## The shape of a directive -/

/-- A key: an ASCII letter or an underscore, followed by alphanumeric characters and underscores. -/
def IsKey (key : List Char) : Prop :=
  ∃ c cs, key = c :: cs ∧ (isAsciiLetter c = true ∨ c = '_') ∧
    ∀ d ∈ cs, isAlphanumeric d = true ∨ d = '_'

/-- **A line of the shape of a directive**: two hyphens, a key and a colon, with blanks allowed
before each of them. The rest of the line stands behind the colon. -/
inductive Shape : (line key rest : List Char) → Prop
  | intro {w w' w'' key rest : List Char} (hw : Blanks w) (hw' : Blanks w') (hkey : IsKey key)
    (hw'' : Blanks w'') :
    Shape (w ++ '-' :: '-' :: (w' ++ (key ++ (w'' ++ ':' :: rest)))) key rest

/-- The line has the shape of a directive. -/
def HasShape (line : List Char) : Prop :=
  ∃ key rest, Shape line key rest

variable {line key rest w : List Char} {c : Char}

theorem isWordChar_iff : isWordChar c = true ↔ isAlphanumeric c = true ∨ c = '_' := by
  simp [isWordChar]

theorem beginsKey_iff : beginsKey c = true ↔ isAsciiLetter c = true ∨ c = '_' := by
  simp [beginsKey]

theorem not_isWordChar_of_blank (h : isBlank c = true) : isWordChar c = false := by
  have hcontinues := Literal.continuesWord_of_blank h
  simp only [Literal.continuesWord, Bool.or_eq_false_iff] at hcontinues
  simp [isWordChar, hcontinues]

theorem isAlphanumeric_of_letter (h : isAsciiLetter c = true) : isAlphanumeric c = true := by
  have hle : c ≤ 'z' := by
    simp only [isAsciiLetter, Bool.or_eq_true, Bool.and_eq_true, decide_eq_true_eq] at h
    rcases h with ⟨-, hle⟩ | ⟨-, hle⟩
    · exact hle
    · exact Char.le_trans hle (by decide)
  have hnat : c.toNat ≤ 'z'.toNat := hle
  have hlt : c.toNat < 128 := Nat.lt_of_le_of_lt hnat (by decide)
  simp [isAlphanumeric, isAlphabetic, hlt, h]

theorem isKey_cons {cs : List Char} (hc : beginsKey c = true)
    (hcs : ∀ d ∈ cs, isWordChar d = true) : IsKey (c :: cs) :=
  ⟨c, cs, rfl, beginsKey_iff.mp hc, fun d hd => isWordChar_iff.mp (hcs d hd)⟩

/-- A key is a word. -/
theorem IsKey.isWordChar (h : IsKey key) : ∀ c ∈ key, isWordChar c = true := by
  obtain ⟨c, cs, rfl, hc, hcs⟩ := h
  rw [List.forall_mem_cons]
  exact ⟨isWordChar_iff.mpr (hc.imp_left isAlphanumeric_of_letter),
    fun d hd => isWordChar_iff.mpr (hcs d hd)⟩

theorem not_isBlank_of_isWordChar (h : isWordChar c = true) : isBlank c = false := by
  rw [← Bool.not_eq_true]
  intro hblank
  simp [not_isWordChar_of_blank hblank] at h

theorem shape_of_splitLine (h : splitLine line = some (key, rest)) : Shape line key rest := by
  -- what is skipped before the hyphens, the key and the colon are the three runs of blanks
  unfold splitLine at h
  split at h
  · next cs hopen =>
    obtain ⟨w, hw, rfl⟩ := Literal.exists_blanks_of_trimStart hopen
    obtain ⟨w', hw', hcs⟩ := Literal.exists_blanks cs
    unfold splitKey at h
    split at h
    · cases h
    · next c body hbody =>
      rw [hbody] at hcs
      split at h
      · next hc =>
        split at h
        · next behind hcolon =>
          cases h
          obtain ⟨w'', hw'', hrest⟩ := Literal.exists_blanks_of_trimStart hcolon
          have hkey : IsKey (c :: body.takeWhile isWordChar) :=
            isKey_cons hc (List.all_eq_true.mp List.all_takeWhile)
          have hline : cs = w' ++ (c :: body.takeWhile isWordChar ++ (w'' ++ ':' :: rest)) := by
            rw [← hrest, List.cons_append, List.takeWhile_append_dropWhile, hcs]
          rw [hline]
          exact .intro hw hw' hkey hw''
        · cases h
      · cases h
  · cases h

theorem splitLine_of_shape (h : Shape line key rest) : splitLine line = some (key, rest) := by
  obtain @⟨w, w', w'', _, _, hw, hw', hkey, hw''⟩ := h
  have hword := hkey.isWordChar
  obtain ⟨c, cs, rfl, hc, -⟩ := hkey
  rw [List.forall_mem_cons] at hword
  have hbegins := beginsKey_iff.mpr hc
  -- the key ends where it has to: neither a blank nor the colon continues it
  have hend : ∀ d ∈ (w'' ++ ':' :: rest).head?, isWordChar d = false := by
    cases w'' with
    | nil => simpa using (by decide : isWordChar ':' = false)
    | cons d w'' => simpa using not_isWordChar_of_blank (hw'' d List.mem_cons_self)
  have hopen := Literal.trimStart_cons (show isBlank '-' = false by decide)
    ('-' :: (w' ++ (c :: cs ++ (w'' ++ ':' :: rest))))
  have hkey := Literal.trimStart_cons (not_isBlank_of_isWordChar hword.1)
    (cs ++ (w'' ++ ':' :: rest))
  have hcolon := Literal.trimStart_cons (show isBlank ':' = false by decide) rest
  unfold splitLine
  rw [Literal.trimStart_blanks_append hw, hopen]
  simp only [Literal.trimStart_blanks_append hw', List.cons_append, hkey, splitKey, hbegins,
    Literal.takeWhile_word hword.2 hend, Literal.dropWhile_word hword.2 hend,
    Literal.trimStart_blanks_append hw'', hcolon, if_true]

/-- **The lines of the shape of a directive are those that can be split**, in one way only. -/
theorem splitLine_eq_some_iff : splitLine line = some (key, rest) ↔ Shape line key rest :=
  ⟨shape_of_splitLine, splitLine_of_shape⟩

/-- A line has the shape of one directive only. -/
theorem Shape.unique {key' rest' : List Char} (h : Shape line key rest)
    (h' : Shape line key' rest') : key = key' ∧ rest = rest' := by
  have hsame := (splitLine_of_shape h).symm.trans (splitLine_of_shape h')
  rwa [Option.some.injEq, Prod.mk.injEq] at hsame

theorem splitLine_eq_none_iff : splitLine line = none ↔ ¬ HasShape line := by
  rw [Option.eq_none_iff_forall_ne_some]
  constructor
  · rintro h ⟨key, rest, hshape⟩
    exact h _ (splitLine_of_shape hshape)
  · intro h entry hentry
    exact h ⟨entry.1, entry.2, shape_of_splitLine hentry⟩

theorem not_hasShape_of_blanks (h : Blanks line) : ¬ HasShape line := by
  rw [← splitLine_eq_none_iff, splitLine, Literal.trimStart_of_blanks h]

/-! ## The leading run -/

/-- **The leading run of directives**: the longest one at the start of some lines in which every line
has the shape of a directive. -/
structure Leading (front ls : List (List Char)) : Prop where
  start : front <+: ls
  shaped : ∀ line ∈ front, HasShape line
  longest : ∀ other, other <+: ls → (∀ line ∈ other, HasShape line) → other.length ≤ front.length

variable {front back ls : List (List Char)}

/-- Lines of the right shape before one of another shape are the leading run. -/
theorem leading_append (hfront : ∀ line ∈ front, HasShape line)
    (hback : ∀ line ∈ back.head?, ¬ HasShape line) : Leading front (front ++ back) where
  start := List.prefix_append front back
  shaped := hfront
  longest := by
    intro other hother hshaped
    by_contra hlt
    rw [Nat.not_le] at hlt
    -- a longer run would take in the line behind
    obtain ⟨more, hmore⟩ := List.prefix_of_prefix_length_le (List.prefix_append front back) hother
      hlt.le
    cases more with
    | nil =>
      rw [List.append_nil] at hmore
      exact absurd (congrArg List.length hmore) hlt.ne
    | cons line more =>
      rw [← hmore, List.prefix_append_right_inj] at hother
      have hline : line ∈ back.head? := by
        obtain ⟨tail, rfl⟩ := hother
        exact rfl
      exact hback line hline (hshaped line (hmore ▸ by simp))

theorem Leading.exists_append (h : Leading front ls) :
    ∃ back, ls = front ++ back ∧ ∀ line ∈ back.head?, ¬ HasShape line := by
  obtain ⟨back, rfl⟩ := h.start
  refine ⟨back, rfl, fun line hline hshape => ?_⟩
  cases back with
  | nil => cases hline
  | cons l back =>
    cases hline
    have hshaped : ∀ l ∈ front ++ [line], HasShape l := by
      simpa [or_imp, forall_and] using ⟨h.shaped, hshape⟩
    have hlonger := h.longest (front ++ [line]) (by simp) hshaped
    rw [List.length_append, List.length_singleton] at hlonger
    omega

theorem exists_leading (ls : List (List Char)) : ∃ front, Leading front ls := by
  -- by `leading_append`, a run is the longest if the line behind it has another shape
  have hsplit : ∃ front back, ls = front ++ back ∧ (∀ line ∈ front, HasShape line) ∧
      ∀ line ∈ back.head?, ¬ HasShape line := by
    induction ls with
    | nil => exact ⟨[], [], rfl, nofun, nofun⟩
    | cons line ls ih =>
      by_cases h : HasShape line
      · obtain ⟨front, back, rfl, hfront, hback⟩ := ih
        exact ⟨line :: front, back, rfl, List.forall_mem_cons.mpr ⟨h, hfront⟩, hback⟩
      · exact ⟨[], line :: ls, rfl, nofun, by simpa using h⟩
  obtain ⟨front, back, rfl, hfront, hback⟩ := hsplit
  exact ⟨front, leading_append hfront hback⟩

/-- A split line is what its line is by its shape. -/
def Splits (line : List Char) (entry : List Char × List Char) : Prop :=
  Shape line entry.1 entry.2

/-- The leading run is what is split. -/
theorem Leading.forall₂_block (h : Leading front ls) : List.Forall₂ Splits front (block ls) := by
  obtain ⟨back, rfl, hback⟩ := h.exists_append
  have hfront := h.shaped
  clear h
  induction front with
  | nil =>
    cases back with
    | nil => exact .nil
    | cons line back =>
      rw [List.nil_append, block_cons_of_none (splitLine_eq_none_iff.mpr (hback line rfl))]
      exact .nil
  | cons line front ih =>
    rw [List.forall_mem_cons] at hfront
    obtain ⟨⟨key, rest, hshape⟩, hfront⟩ := hfront
    rw [List.cons_append, block_cons_of_some (splitLine_of_shape hshape)]
    exact .cons hshape (ih hfront)

/-! ## Reading the run -/

/-- The line states the directive: its key, and a literal behind the colon. -/
def States (line : List Char) (d : Directive) : Prop :=
  ∃ rest, Shape line d.key.toList rest ∧ Literal.parseChars (trim rest) = .ok d.value

/-- A complaint about the first line of a run, numbered from `n` on, whose value is no literal. -/
def FirstFault (n : Nat) (front : List (List Char)) (err : Error) : Prop :=
  ∃ before line after key rest e, front = before ++ line :: after ∧
    (∀ l ∈ before, ∃ d, States l d) ∧ Shape line key rest ∧
    Literal.parseChars (trim rest) = .error e ∧
    err = ⟨n + before.length, .malformed (String.ofList key) e⟩

variable {entries : List (List Char × List Char)} {n : Nat} {d : Directive} {err : Error}
  {value : Literal} {e : Literal.Error}

/-- A line has one shape, and so states one directive. -/
theorem states_iff (h : Shape line key rest) :
    States line d ↔ d.key = String.ofList key ∧ Literal.parseChars (trim rest) = .ok d.value := by
  constructor
  · rintro ⟨rest', hshape, hvalue⟩
    obtain ⟨rfl, rfl⟩ := h.unique hshape
    exact ⟨String.ofList_toList.symm, hvalue⟩
  · rintro ⟨hkey, hvalue⟩
    exact ⟨rest, by rwa [hkey, String.toList_ofList], hvalue⟩

theorem not_states_of_error (h : Shape line key rest)
    (hvalue : Literal.parseChars (trim rest) = .error e) : ¬ States line d := by
  rw [states_iff h, hvalue]
  exact fun hd => nomatch hd.2

theorem firstFault_cons_of_error (h : Shape line key rest)
    (hvalue : Literal.parseChars (trim rest) = .error e) :
    FirstFault n (line :: front) err ↔ err = ⟨n, .malformed (String.ofList key) e⟩ := by
  constructor
  · rintro ⟨before, line', after, key', rest', e', hfront, hbefore, hshape, herror, rfl⟩
    cases before with
    | nil =>
      -- this line is the one that is complained about
      cases hfront
      obtain ⟨rfl, rfl⟩ := h.unique hshape
      rw [hvalue] at herror
      cases herror
      rfl
    | cons l before =>
      -- a later one is not, since this line states nothing
      cases hfront
      obtain ⟨d, hd⟩ := hbefore line List.mem_cons_self
      exact absurd hd (not_states_of_error h hvalue)
  · rintro rfl
    exact ⟨[], line, front, key, rest, e, rfl, nofun, h, hvalue, rfl⟩

theorem firstFault_cons_of_states (hd : States line d) :
    FirstFault n (line :: front) err ↔ FirstFault (n + 1) front err := by
  constructor
  · rintro ⟨before, line', after, key, rest, e, hfront, hbefore, hshape, herror, rfl⟩
    cases before with
    | nil =>
      cases hfront
      exact absurd hd (not_states_of_error hshape herror)
    | cons l before =>
      cases hfront
      rw [List.forall_mem_cons] at hbefore
      refine ⟨before, line', after, key, rest, e, rfl, hbefore.2, hshape, herror, ?_⟩
      rw [List.length_cons, Nat.add_right_comm, Nat.add_assoc]
  · rintro ⟨before, line', after, key, rest, e, rfl, hbefore, hshape, herror, rfl⟩
    refine ⟨line :: before, line', after, key, rest, e, rfl,
      List.forall_mem_cons.mpr ⟨⟨d, hd⟩, hbefore⟩, hshape, herror, ?_⟩
    rw [List.length_cons, Nat.add_right_comm, Nat.add_assoc]

theorem ofBlock_cons_of_error (hvalue : Literal.parseChars (trim rest) = .error e) :
    ofBlock n ((key, rest) :: entries) = .error ⟨n, .malformed (String.ofList key) e⟩ := by
  rw [ofBlock, hvalue]

theorem ofBlock_cons_eq_ok_iff (hvalue : Literal.parseChars (trim rest) = .ok value)
    {ds : List Directive} :
    ofBlock n ((key, rest) :: entries) = .ok ds ↔
      ∃ more, ofBlock (n + 1) entries = .ok more ∧ ds = ⟨String.ofList key, value, n⟩ :: more := by
  rw [ofBlock, hvalue]
  cases ofBlock (n + 1) entries <;> simp [eq_comm]

theorem ofBlock_cons_eq_error_iff (hvalue : Literal.parseChars (trim rest) = .ok value) :
    ofBlock n ((key, rest) :: entries) = .error err ↔ ofBlock (n + 1) entries = .error err := by
  rw [ofBlock, hvalue]
  cases ofBlock (n + 1) entries <;> simp

/-- **The directives that are read are those that the lines state**, in their order and with their
numbers. -/
theorem ofBlock_eq_ok_iff (h : List.Forall₂ Splits front entries) (n : Nat) (ds : List Directive) :
    ofBlock n entries = .ok ds ↔
      List.Forall₂ States front ds ∧ ds.map Directive.line = List.range' n ds.length := by
  induction h generalizing n ds with
  | nil =>
    rw [ofBlock_nil, Except.ok.injEq, List.forall₂_nil_left_iff, eq_comm]
    exact ⟨fun hds => ⟨hds, by simp [hds]⟩, And.left⟩
  | @cons line entry front entries hsplit _ ih =>
    obtain ⟨key, rest⟩ := entry
    cases hvalue : Literal.parseChars (trim rest) with
    | error e =>
      -- neither side holds, whatever the rest of the run states
      rw [ofBlock_cons_of_error hvalue]
      refine ⟨nofun, ?_⟩
      rintro ⟨hstates, -⟩
      cases hstates with
      | cons hd _ => exact absurd hd (not_states_of_error hsplit hvalue)
    | ok value =>
      rw [ofBlock_cons_eq_ok_iff hvalue]
      constructor
      · rintro ⟨more, hmore, rfl⟩
        obtain ⟨hstates, hlines⟩ := (ih (n + 1) more).mp hmore
        refine ⟨.cons ((states_iff hsplit).mpr ⟨rfl, hvalue⟩) hstates, ?_⟩
        rw [List.map_cons, hlines, List.length_cons, List.range'_succ]
      · rintro ⟨hstates, hlines⟩
        cases hstates with
        | @cons _ d _ more hd hmore =>
          rw [List.map_cons, List.length_cons, List.range'_succ, List.cons.injEq] at hlines
          obtain ⟨hkey, hok⟩ := (states_iff hsplit).mp hd
          rw [hvalue, Except.ok.injEq] at hok
          refine ⟨more, (ih (n + 1) more).mpr ⟨hmore, hlines.2⟩, ?_⟩
          rw [← hkey, hok, ← hlines.1]

/-- **The first value that is no literal is complained about**, with the number of its line. -/
theorem ofBlock_eq_error_iff (h : List.Forall₂ Splits front entries) (n : Nat) (err : Error) :
    ofBlock n entries = .error err ↔ FirstFault n front err := by
  induction h generalizing n with
  | nil =>
    refine ⟨nofun, ?_⟩
    rintro ⟨before, line, after, key, rest, e, hfront, -⟩
    simp at hfront
  | @cons line entry front entries hsplit _ ih =>
    obtain ⟨key, rest⟩ := entry
    cases hvalue : Literal.parseChars (trim rest) with
    | error e =>
      rw [ofBlock_cons_of_error hvalue, firstFault_cons_of_error hsplit hvalue, Except.error.injEq,
        eq_comm]
    | ok value =>
      have hd : States line ⟨String.ofList key, value, n⟩ :=
        (states_iff hsplit).mpr ⟨rfl, hvalue⟩
      rw [ofBlock_cons_eq_error_iff hvalue, firstFault_cons_of_states hd, ih]

/-- There are directives exactly if every line of the run states one. -/
theorem exists_ofBlock_eq_ok_iff (h : List.Forall₂ Splits front entries) (n : Nat) :
    (∃ ds, ofBlock n entries = .ok ds) ↔ ∀ line ∈ front, ∃ d, States line d := by
  constructor
  · rintro ⟨ds, hds⟩ line hline
    obtain ⟨hstates, -⟩ := (ofBlock_eq_ok_iff h n ds).mp hds
    obtain ⟨i, hi, rfl⟩ := List.getElem_of_mem hline
    exact ⟨_, (List.forall₂_iff_get.mp hstates).2 i hi (hstates.length_eq ▸ hi)⟩
  · intro hall
    cases hread : ofBlock n entries with
    | ok ds => exact ⟨ds, rfl⟩
    | error err =>
      obtain ⟨before, line, after, key, rest, e, rfl, -, hshape, hvalue, -⟩ :=
        (ofBlock_eq_error_iff h n err).mp hread
      obtain ⟨d, hd⟩ := hall line (by simp)
      exact absurd hd (not_states_of_error hshape hvalue)

/-! ## The directives of a text -/

/-- What is split depends on the leading run only. -/
theorem Leading.block_eq {ls' : List (List Char)} (h : Leading front ls) (h' : Leading front ls') :
    block ls = block ls' := by
  have hunique : Relator.RightUnique Splits := by
    rintro line ⟨key, rest⟩ ⟨key', rest'⟩ hshape hshape'
    exact Prod.ext_iff.mpr (hshape.unique hshape')
  exact List.right_unique_forall₂' hunique h.forall₂_block h'.forall₂_block

/-- A blank first line leaves nothing to be read. -/
theorem Leading.eq_nil_of_blanks (h : Leading front ls) (hblank : ∀ line ∈ ls.head?, Blanks line) :
    front = [] := by
  cases front with
  | nil => rfl
  | cons line front =>
    obtain ⟨back, rfl⟩ := h.start
    exact absurd (h.shaped line List.mem_cons_self) (not_hasShape_of_blanks (hblank line rfl))

theorem parse_of_lined {text : String} (h : Lined text.toList ls) :
    parse text = ofBlock 1 (block ls) := by
  rw [parse, lined_iff.mp h]

/-- **Only the leading run of directives counts.** If each of its lines states a directive, these are
the directives of the text, numbered from one; else the first line that states none is complained
about. Two texts with the same leading run have the same directives, whatever follows, and a text
with a blank first line has none. -/
theorem directives_of_leading (path : Path) (text : String) :
    ∃ ls front, Lined text.toList ls ∧ Leading front ls ∧
      ((∃ ds, TestInput.directives path text = .ok ds) ↔ ∀ line ∈ front, ∃ d, States line d) ∧
      (∀ ds, TestInput.directives path text = .ok ds ↔
        List.Forall₂ States front ds ∧ ds.map Directive.line = List.range' 1 ds.length) ∧
      (∀ fault, TestInput.directives path text = .error fault ↔
        ∃ err, FirstFault 1 front err ∧ fault = .directive path err) ∧
      (∀ text' back, Lined text'.toList (front ++ back) → (∀ line ∈ back.head?, ¬ HasShape line) →
        TestInput.directives path text' = TestInput.directives path text) ∧
      (∀ line ∈ ls.head?, Blanks line → TestInput.directives path text = .ok []) := by
  obtain ⟨ls, hls⟩ := exists_lined text.toList
  obtain ⟨front, hfront⟩ := exists_leading ls
  have hparse := parse_of_lined hls
  have hblock := hfront.forall₂_block
  refine ⟨ls, front, hls, hfront, ?_, ?_, ?_, ?_, ?_⟩
  · simp only [TestInput.directives_eq_ok_iff, hparse]
    exact exists_ofBlock_eq_ok_iff hblock 1
  · intro ds
    rw [TestInput.directives_eq_ok_iff, hparse]
    exact ofBlock_eq_ok_iff hblock 1 ds
  · intro fault
    simp only [TestInput.directives_eq_error_iff, hparse, ofBlock_eq_error_iff hblock]
  · intro text' back hls' hback
    -- the other text has the same leading run, so that the same lines are split
    have hsame := (leading_append hfront.shaped hback).block_eq hfront
    rw [TestInput.directives, TestInput.directives, parse_of_lined hls', hsame, hparse]
  · intro line hline hblank
    have hnil : front = [] := hfront.eq_nil_of_blanks (by
      intro l hl
      rwa [Option.mem_unique hl hline])
    rw [TestInput.directives_eq_ok_iff, hparse, ofBlock_eq_ok_iff hblock, hnil]
    exact ⟨.nil, rfl⟩

end Conformance.Directive
