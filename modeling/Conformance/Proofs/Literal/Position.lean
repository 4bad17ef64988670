import Conformance.Literal.Scanner
import Mathlib.Order.Basic
import Mathlib.Tactic.ByContra
import Mathlib.Tactic.SplitIfs

/-!
# Positions in a text

The pieces that a scan takes out of a text are there exactly if their positions are in order, within
the text and between two characters. Where a scan stands is told by what is left of the text, and so
a scan by positions can be compared with a reading, which only sees what is left.

## Main definitions

* `Scanner.Boundary`: a position within a text and between two characters
* `Scanner.Cursor.At`: a scan stands before a rest of the text, and what was noted of it is sound
* `Scanner.Comes`: a scan comes to what a reading says

## Main results

* `Scanner.dropBytes?_eq_some_iff`, `Scanner.slice?_eq_some_iff`: which pieces there are
* `Scanner.boundary_iff_isValid`: boundaries are the valid positions
* `Scanner.Comes.of_done`, `Scanner.Comes.bind`: a scan goes on from where a part of it has come to
* `Scanner.Comes.bump`, `Scanner.Comes.eat`, `Scanner.Comes.slice`, `Scanner.Comes.nest`: the single
  steps
-/

namespace Conformance.Literal

open Text

variable {cs cs' before rest : List Char} {c : Char}

/-! ## Bytes -/

@[simp] theorem byteLength_nil : byteLength [] = 0 := rfl

@[simp] theorem byteLength_cons (c : Char) (cs : List Char) :
    byteLength (c :: cs) = c.utf8Size + byteLength cs := rfl

@[simp] theorem byteLength_append (cs cs' : List Char) :
    byteLength (cs ++ cs') = byteLength cs + byteLength cs' := by
  induction cs with
  | nil => simp
  | cons c cs ih => simp [ih, Nat.add_assoc]

theorem exists_byteLength_cons (c : Char) (cs : List Char) :
    ∃ n, byteLength (c :: cs) = n + 1 :=
  Nat.exists_eq_succ_of_ne_zero (Nat.ne_of_gt (Nat.add_pos_left c.utf8Size_pos _))

theorem byteLength_eq_zero_iff : byteLength cs = 0 ↔ cs = [] := by
  cases cs with
  | nil => simp
  | cons c cs =>
    obtain ⟨n, hn⟩ := exists_byteLength_cons c cs
    simp [hn]

theorem byteLength_toList (s : String) : byteLength s.toList = s.utf8ByteSize := by
  have hlength : ∀ cs : List Char, byteLength cs = (String.ofList cs).utf8ByteSize := by
    intro cs
    induction cs with
    | nil => rfl
    | cons c cs ih => simp [ih]
  rw [hlength, String.ofList_toList]

namespace Scanner

variable {text : List Char} {n start stop : Nat}

/-- The position is within the text and between two characters. -/
def Boundary (text : List Char) (pos : Nat) : Prop :=
  ∃ before after, text = before ++ after ∧ pos = byteLength before

/-- **The positions within a text and between two characters** are the valid ones. -/
theorem boundary_iff_isValid {text : String} {pos : Nat} :
    Boundary text.toList pos ↔ String.Pos.Raw.IsValid text ⟨pos⟩ := by
  rw [String.Pos.Raw.isValid_iff_exists_append, Boundary]
  constructor
  · rintro ⟨before, after, htext, rfl⟩
    refine ⟨String.ofList before, String.ofList after, ?_, ?_⟩
    · rw [← String.ofList_append, ← htext, String.ofList_toList]
    · rw [← String.toList_ofList (l := before), byteLength_toList, String.toList_ofList]
      rfl
  · rintro ⟨before, after, rfl, hpos⟩
    refine ⟨before.toList, after.toList, by simp, ?_⟩
    rw [byteLength_toList]
    exact congrArg String.Pos.Raw.byteIdx hpos

theorem dropBytes?_eq_some_iff :
    dropBytes? text n = some cs ↔ ∃ before, text = before ++ cs ∧ n = byteLength before := by
  constructor
  · intro h
    fun_induction dropBytes? text n with
    | case1 text =>
      obtain rfl := Option.some.inj h
      exact ⟨[], rfl, rfl⟩
    | case2 => contradiction
    | case3 c text n hle ih =>
      obtain ⟨before, rfl, hn⟩ := ih h
      exact ⟨c :: before, rfl, by rw [byteLength_cons, ← hn]; omega⟩
    | case4 => contradiction
  · rintro ⟨before, rfl, rfl⟩
    induction before with
    | nil => cases cs <;> rfl
    | cons c before ih =>
      -- a character takes a byte at least, so there is something to drop
      obtain ⟨n, hn⟩ := exists_byteLength_cons c before
      rw [List.cons_append, hn, dropBytes?, ← hn, byteLength_cons, if_pos (Nat.le_add_right ..),
        Nat.add_sub_cancel_left]
      exact ih

theorem takeBytes?_eq_some_iff :
    takeBytes? text n = some cs ↔ ∃ after, text = cs ++ after ∧ n = byteLength cs := by
  constructor
  · intro h
    fun_induction takeBytes? text n generalizing cs with
    | case1 text =>
      obtain rfl := Option.some.inj h
      exact ⟨text, rfl, rfl⟩
    | case2 => contradiction
    | case3 c text n hle ih =>
      obtain ⟨taken, htaken, rfl⟩ := Option.map_eq_some_iff.mp h
      obtain ⟨after, rfl, hn⟩ := ih htaken
      exact ⟨after, rfl, by rw [byteLength_cons, ← hn]; omega⟩
    | case4 => contradiction
  · rintro ⟨after, rfl, rfl⟩
    induction cs with
    | nil => cases after <;> rfl
    | cons c cs ih =>
      obtain ⟨n, hn⟩ := exists_byteLength_cons c cs
      rw [List.cons_append, hn, takeBytes?, ← hn, byteLength_cons, if_pos (Nat.le_add_right ..),
        Nat.add_sub_cancel_left, ih]
      rfl

/-- **The piece between two positions** is there exactly if they are in order, within the text and
between two characters. -/
theorem slice?_eq_some_iff :
    slice? text start stop = some cs ↔
      ∃ before after, text = before ++ cs ++ after ∧ start = byteLength before ∧
        stop = byteLength (before ++ cs) := by
  rw [slice?]
  constructor
  · intro h
    split_ifs at h with hle
    obtain ⟨behind, hbehind, htake⟩ := Option.bind_eq_some_iff.mp h
    obtain ⟨before, rfl, rfl⟩ := dropBytes?_eq_some_iff.mp hbehind
    obtain ⟨after, rfl, hlength⟩ := takeBytes?_eq_some_iff.mp htake
    refine ⟨before, after, by rw [List.append_assoc], rfl, ?_⟩
    rw [byteLength_append]
    omega
  · rintro ⟨before, after, rfl, rfl, rfl⟩
    rw [byteLength_append, if_pos (Nat.le_add_right ..), Nat.add_sub_cancel_left,
      dropBytes?_eq_some_iff.mpr ⟨before, List.append_assoc .., rfl⟩, Option.bind_some]
    exact takeBytes?_eq_some_iff.mpr ⟨after, rfl, rfl⟩

/-! ## Where a scan stands -/

/-- **What is noted of a scan is sound**: positions are within the text and between two characters,
pieces are between positions in order, and a value inside another one is begun behind the begin of
that one and of the value before it. -/
def Step.Sound (text : List Char) : Step → Prop
  | reached pos => Boundary text pos
  | taken start stop => start ≤ stop ∧ Boundary text start ∧ Boundary text stop
  | nested outer previous start => outer ≤ previous ∧ previous < start ∧ Boundary text start

/-- The scan stands before the rest of the text, and what was noted of it is sound. -/
structure Cursor.At (text : List Char) (s : Cursor) (cs : List Char) : Prop where
  split : ∃ before, text = before ++ cs ∧ s.pos = byteLength before
  sound : ∀ step ∈ s.log, step.Sound text

namespace Cursor.At

variable {s s' : Cursor}

theorem boundary (h : s.At text cs) : Boundary text s.pos := by
  obtain ⟨before, htext, hpos⟩ := h.split
  exact ⟨before, cs, htext, hpos⟩

theorem pos_eq (h : s.At text cs) : s.pos = byteLength text - byteLength cs := by
  obtain ⟨before, rfl, hpos⟩ := h.split
  rw [hpos, byteLength_append, Nat.add_sub_cancel]

theorem suffix (h : s.At text cs) : cs <:+ text := by
  obtain ⟨before, rfl, -⟩ := h.split
  exact List.suffix_append before cs

/-- Further on there is less of the text left. -/
theorem length_le (h : s.At text cs) (h' : s'.At text cs') (hle : s.pos ≤ s'.pos) :
    cs'.length ≤ cs.length := by
  by_contra hlt
  -- else there would be something between the two, and the later one would stand before it
  obtain ⟨between, rfl⟩ :=
    List.suffix_of_suffix_length_le h.suffix h'.suffix (Nat.le_of_not_le hlt)
  have hne : between ≠ [] := by
    rintro rfl
    exact hlt (Nat.le_refl _)
  have hpos := Nat.pos_of_ne_zero (mt byteLength_eq_zero_iff.mp hne)
  obtain ⟨before, rfl, hbefore⟩ := h'.split
  rw [h.pos_eq, hbefore] at hle
  simp only [byteLength_append] at hle
  omega

theorem length_lt (h : s.At text cs) (h' : s'.At text cs') (hlt : s.pos < s'.pos) :
    cs'.length < cs.length := by
  refine Nat.lt_of_le_of_ne (h.length_le h' (Nat.le_of_lt hlt)) fun hlength => ?_
  -- two rests of one length are the same, and so are their positions
  obtain rfl := List.IsSuffix.eq_of_length
    (List.suffix_of_suffix_length_le h'.suffix h.suffix (Nat.le_of_eq hlength)) hlength
  rw [h.pos_eq, h'.pos_eq] at hlt
  exact Nat.lt_irrefl _ hlt

/-- What is noted of a sound scan does not matter for where it stands. -/
theorem noted (h : s.At text cs) (step : Step) (hstep : step.Sound text) :
    Cursor.At text { s with log := s.log ++ [step] } cs where
  split := h.split
  sound step' hmem := by
    rcases List.mem_append.mp hmem with hold | hnew
    · exact h.sound step' hold
    · rw [List.mem_singleton.mp hnew]
      exact hstep

end Cursor.At

/-- **The scan comes to what a reading says**: to its value before its rest, with the position not
behind where it was, or to its error at the position of what was left. -/
def Comes {α : Type} (text : List Char) (s : Cursor) (m : Scan α) : Reading α → Prop
  | .ok (a, rest) => ∃ s', m text s = (.done a, s') ∧ s'.At text rest ∧ s.pos ≤ s'.pos
  | .error stop => ∃ s', m text s =
        (.failed ⟨stop.cause, byteLength text - byteLength stop.rest⟩, s') ∧
      (∀ step ∈ s'.log, step.Sound text) ∧ stop.rest <:+ text

section Comes

variable {α β : Type} {s s' : Cursor} {m : Scan α} {next : α → Scan β} {a : α} {r : Reading β}

theorem bind_of_done (h : m text s = (.done a, s')) : (m >>= next) text s = next a text s' := by
  change andThen m next text s = _
  rw [andThen, h]

theorem bind_of_failed {e : Error} (h : m text s = (.failed e, s')) :
    (m >>= next) text s = (.failed e, s') := by
  change andThen m next text s = _
  rw [andThen, h]

/-- A scan goes on from where a part of it is done. -/
theorem Comes.of_done (h : m text s = (.done a, s')) (hle : s.pos ≤ s'.pos)
    (hnext : Comes text s' (next a) r) : Comes text s (m >>= next) r := by
  cases r with
  | ok found =>
    obtain ⟨s'', hrun, hat, hle'⟩ := hnext
    exact ⟨s'', (bind_of_done h).trans hrun, hat, Nat.le_trans hle hle'⟩
  | error stop =>
    obtain ⟨s'', hrun, hlast⟩ := hnext
    exact ⟨s'', (bind_of_done h).trans hrun, hlast⟩

/-- A scan goes on from where a part of it has come to. -/
theorem Comes.bind (h : Comes text s m (.ok (a, rest)))
    (hnext : ∀ s', s'.At text rest → s.pos ≤ s'.pos → Comes text s' (next a) r) :
    Comes text s (m >>= next) r := by
  obtain ⟨s', hm, hat, hle⟩ := h
  exact .of_done hm hle (hnext s' hat hle)

/-- A scan that fails goes no further. -/
theorem Comes.bind_error {stop : Stop} (h : Comes text s m (.error stop)) :
    Comes text s (m >>= next) (.error stop) := by
  obtain ⟨s', hm, hlast⟩ := h
  exact ⟨s', bind_of_failed hm, hlast⟩

theorem comes_pure (hat : s.At text rest) : Comes text s (pure a) (.ok (a, rest)) :=
  ⟨s, rfl, hat, Nat.le_refl _⟩

/-! ### Single steps -/

theorem comes_fail (hat : s.At text rest) (cause : Cause) :
    Comes text s (fail cause : Scan α) (.error ⟨cause, rest⟩) := by
  refine ⟨s, ?_, hat.sound, hat.suffix⟩
  rw [← hat.pos_eq]
  rfl

theorem comes_failAt (hat : s.At text rest) {s₀ : Cursor} (hat₀ : s₀.At text cs) (cause : Cause) :
    Comes text s (failAt cause s₀.pos : Scan α) (.error ⟨cause, cs⟩) := by
  refine ⟨s, ?_, hat.sound, hat₀.suffix⟩
  rw [← hat₀.pos_eq]
  rfl

theorem rest_eq (hat : s.At text cs) : Scanner.rest text s = (.done cs, s) := by
  obtain ⟨before, htext, hpos⟩ := hat.split
  rw [Scanner.rest, dropBytes?_eq_some_iff.mpr ⟨before, htext, hpos⟩]

theorem peek_eq (hat : s.At text cs) : peek text s = (.done cs.head?, s) :=
  bind_of_done (rest_eq hat)

theorem peekSecond_eq (hat : s.At text cs) : peekSecond text s = (.done cs[1]?, s) :=
  bind_of_done (rest_eq hat)

/-- Behind its next character a scan stands before the others. -/
theorem advance_at (hat : s.At text (c :: cs)) :
    Cursor.At text ⟨s.pos + c.utf8Size, s.log ++ [.reached (s.pos + c.utf8Size)]⟩ cs := by
  obtain ⟨before, htext, hpos⟩ := hat.split
  have hsplit : text = before ++ [c] ++ cs := by rw [htext, List.append_assoc]; rfl
  have hlength : s.pos + c.utf8Size = byteLength (before ++ [c]) := by simp [hpos]
  have hat' : Cursor.At text ⟨s.pos + c.utf8Size, s.log⟩ cs :=
    ⟨⟨_, hsplit, hlength⟩, hat.sound⟩
  exact hat'.noted (.reached _) hat'.boundary

theorem bump_eq_of_nil (hat : s.At text []) : bump text s = (.done none, s) :=
  bind_of_done (peek_eq hat)

theorem exists_bump_eq (hat : s.At text (c :: cs)) :
    ∃ s', bump text s = (.done (some c), s') ∧ s'.At text cs ∧ s.pos < s'.pos :=
  ⟨_, bind_of_done (peek_eq hat), advance_at hat, Nat.lt_add_of_pos_right c.utf8Size_pos⟩

theorem Comes.bump {next : Option Char → Scan β} (hat : s.At text (c :: cs))
    (hnext : ∀ s', s'.At text cs → s.pos < s'.pos → Comes text s' (next (some c)) r) :
    Comes text s (Scanner.bump >>= next) r := by
  obtain ⟨s', hbump, hat', hlt⟩ := exists_bump_eq hat
  exact .of_done hbump (Nat.le_of_lt hlt) (hnext s' hat' hlt)

theorem Comes.eat {next : Bool → Scan β} (hat : s.At text (c :: cs))
    (hnext : ∀ s', s'.At text cs → s.pos < s'.pos → Comes text s' (next true) r) :
    Comes text s (Scanner.eat c >>= next) r := by
  have heat : Scanner.eat c text s =
      (.done true, ⟨s.pos + c.utf8Size, s.log ++ [.reached (s.pos + c.utf8Size)]⟩) := by
    rw [Scanner.eat, bind_of_done (peek_eq hat), List.head?_cons, if_pos rfl]
    rfl
  have hlt : s.pos < s.pos + c.utf8Size := Nat.lt_add_of_pos_right c.utf8Size_pos
  exact .of_done heat (Nat.le_of_lt hlt) (hnext _ (advance_at hat) hlt)

theorem Comes.eat_of_ne {next : Bool → Scan β} (hat : s.At text cs)
    (hne : ∀ rest, cs = c :: rest → False) (hnext : Comes text s (next false) r) :
    Comes text s (Scanner.eat c >>= next) r := by
  have hhead : cs.head? ≠ some c := by
    intro hhead
    obtain ⟨rest, hrest⟩ := List.head?_eq_some_iff.mp hhead
    exact hne rest hrest
  have heat : Scanner.eat c text s = (.done false, s) := by
    rw [Scanner.eat, bind_of_done (peek_eq hat), if_neg hhead]
    rfl
  exact .of_done heat (Nat.le_refl _) hnext

/-- The piece from where a scan stood to where it stands is what it has taken. -/
theorem Comes.slice {next : List Char → Scan β} {s₀ : Cursor} {taken : List Char}
    (hat₀ : s₀.At text (taken ++ rest)) (hat : s.At text rest)
    (hnext : ∀ s', s'.At text rest → s'.pos = s.pos → Comes text s' (next taken) r) :
    Comes text s (Scanner.slice s₀.pos >>= next) r := by
  obtain ⟨before, htext, hpos₀⟩ := hat₀.split
  obtain ⟨before', htext', hpos⟩ := hat.split
  -- what is left tells what was before, since together they are the text
  obtain rfl : before' = before ++ taken := by
    rw [htext, ← List.append_assoc] at htext'
    exact (List.append_cancel_right htext').symm
  have hslice : slice? text s₀.pos s.pos = some taken :=
    slice?_eq_some_iff.mpr ⟨before, rest, by rw [htext, List.append_assoc], hpos₀, hpos⟩
  have hrun : Scanner.slice s₀.pos text s =
      (.done taken, { s with log := s.log ++ [.taken s₀.pos s.pos] }) := by
    rw [Scanner.slice, hslice]
  have hle : s₀.pos ≤ s.pos := by
    rw [hpos₀, hpos, byteLength_append]
    exact Nat.le_add_right ..
  have hnoted := hat.noted (.taken s₀.pos s.pos) ⟨hle, hat₀.boundary, hat.boundary⟩
  exact .of_done hrun (Nat.le_refl _) (hnext _ hnoted rfl)

theorem Comes.nest {next : Unit → Scan β} {outer previous : Nat} (hat : s.At text cs)
    (hle : outer ≤ previous) (hlt : previous < s.pos)
    (hnext : ∀ s', s'.At text cs → s'.pos = s.pos → Comes text s' (next ()) r) :
    Comes text s (Scanner.nest outer previous >>= next) r :=
  .of_done (m := Scanner.nest outer previous) rfl (Nat.le_refl _)
    (hnext _ (hat.noted (.nested outer previous s.pos) ⟨hle, hlt, hat.boundary⟩) rfl)

/-- A loop that needs no more than one turn for each character comes to its end. -/
theorem Comes.bounded {loop : Nat → Scan α} {r : Reading α} (hat : s.At text cs)
    (h : ∀ fuel, cs.length < fuel → Comes text s (loop fuel) r) :
    Comes text s (Scanner.bounded loop) r := by
  have hloop := h (text.length + 1) (Nat.lt_succ_of_le hat.suffix.length_le)
  cases r <;> exact hloop

end Comes

end Scanner

end Conformance.Literal
