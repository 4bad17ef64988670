import Conformance.Proofs.Directive.Line
import Conformance.Proofs.Text.Trim

/-!
# Directives and the spacing of lines

Neither the blanks at the edges of a line nor the way in which it ends matter for the directives of
a text. Of a line only its key and its value count, and the value without the blanks around it: what
is added at the start of a line stands before its hyphens, and what is added at its end stands
behind its value, be that a literal or not.

## Main definitions

* `Respaced`: texts that differ in the edges of their lines and in how they end
* `stated?`: the key and the value of a line

## Main results

* `stated?_pad`, `stated?_dropReturn`: blanks at the edges do not change what a line states
* `ofBlock_block_cons_congr`: a block depends on what its lines state, one line after the other
* `Respaced.ofBlock_eq`: respaced texts have the same block of directives
* `directives_respaced`: respaced texts have the same directives, or the same fault
-/

namespace Conformance.Directive

open Text
open Literal (Blanks)

/-- Blanks that can be added to a line without ending it. -/
def Padding (w : List Char) : Prop :=
  Blanks w ∧ '\n' ∉ w

/-- **Texts that differ in the edges of their lines and in how they end.** Any blanks but line feeds
may be added at the start and at the end of a line, and a line that ends may end in either way. -/
inductive Respaced : (text text' : List Char) → Prop
  | last {line w w' : List Char} (h : '\n' ∉ line) (hw : Padding w) (hw' : Padding w') :
    Respaced line (w ++ (line ++ w'))
  | ended {line w w' rest rest' : List Char} (e e' : LineEnd) (h : '\n' ∉ line) (hw : Padding w)
    (hw' : Padding w') (hrest : Respaced rest rest') :
    Respaced (line ++ (e.chars ++ rest)) (w ++ (line ++ w') ++ (e'.chars ++ rest'))

/-! ## One line -/

/-- The key of a line and its value, without the blanks around it. -/
def stated? (line : List Char) : Option (List Char × List Char) :=
  (splitLine line).map fun entry => (entry.1, trim entry.2)

variable {line line' key rest w w' piece : List Char}

theorem hasShape_iff_exists_parts : HasShape line ↔ ∃ p : Parts, p.line = line := by
  constructor
  · rintro ⟨key, rest, h⟩
    obtain ⟨p, hp, -, -⟩ := splitLine_eq_some_iff_parts.mp (splitLine_of_shape h)
    exact ⟨p, hp⟩
  · rintro ⟨p, rfl⟩
    exact ⟨_, _, p.shape⟩

/-- Blanks before a line go to those before its hyphens, and what is behind it goes to its rest. -/
theorem Shape.pad (h : Shape line key rest) (hw : Blanks w) (w' : List Char) :
    Shape (w ++ (line ++ w')) key (rest ++ w') := by
  obtain @⟨v, v', v'', _, _, hv, hv', hkey, hv''⟩ := h
  have hpadded : Shape (w ++ v ++ '-' :: '-' :: (v' ++ (key ++ (v'' ++ ':' :: (rest ++ w'))))) key
      (rest ++ w') :=
    .intro (hw.append hv) hv' hkey hv''
  simpa only [List.append_assoc, List.cons_append] using hpadded

/-- A line has the shape of a directive if it has it with blanks before it. -/
theorem hasShape_of_blanks_append (hw : Blanks w) (h : HasShape (w ++ line)) : HasShape line := by
  obtain ⟨key, rest, h⟩ := h
  rw [← splitLine_eq_some_iff, splitLine, Literal.trimStart_blanks_append hw] at h
  exact ⟨key, rest, splitLine_eq_some_iff.mp h⟩

/-- A line has the shape of a directive if it has it with blanks behind it: its colon is none of
them. -/
theorem hasShape_of_append_blanks (hw : Blanks w) (h : HasShape (line ++ w)) : HasShape line := by
  obtain ⟨p, hp⟩ := hasShape_iff_exists_parts.mp h
  have hcolon : ':' ∉ w := fun hmem => absurd (hw _ hmem) (by decide)
  rcases List.append_eq_append_iff.mp (show p.front ++ ':' :: p.rest = line ++ w from hp) with
    ⟨behind, rfl, hbehind⟩ | ⟨before, -, hbefore⟩
  · cases behind with
    | nil =>
      rw [List.nil_append] at hbehind
      exact absurd (hbehind ▸ List.mem_cons_self) hcolon
    | cons c rest =>
      obtain ⟨rfl, -⟩ := List.cons.inj hbehind
      exact hasShape_iff_exists_parts.mpr ⟨{ p with rest }, rfl⟩
  · exact absurd (by simp [hbefore]) hcolon

theorem trim_append_blanks (hw : Blanks w) (s : List Char) : trim (s ++ w) = trim s := by
  rw [trim_eq_iff]
  obtain ⟨⟨before, after, hbefore, hafter, hs⟩, hstart, hfinish⟩ := trims_trim s
  refine ⟨⟨before, after ++ w, hbefore, hafter.append hw, ?_⟩, hstart, hfinish⟩
  conv_lhs => rw [hs]
  simp only [List.append_assoc]

/-- **Blanks at the edges do not change what a line states.** -/
theorem stated?_pad (hw : Blanks w) (hw' : Blanks w') :
    stated? (w ++ (line ++ w')) = stated? line := by
  by_cases h : HasShape line
  · obtain ⟨key, rest, hshape⟩ := h
    rw [stated?, stated?, splitLine_of_shape hshape, splitLine_of_shape (hshape.pad hw w')]
    simp only [Option.map_some, trim_append_blanks hw']
  · have hpadded : ¬ HasShape (w ++ (line ++ w')) := fun hshape =>
      h (hasShape_of_append_blanks hw' (hasShape_of_blanks_append hw hshape))
    rw [stated?, stated?, splitLine_eq_none_iff.mpr h, splitLine_eq_none_iff.mpr hpadded]

/-- **The carriage return that a line feed may follow** does not change what a line states. -/
theorem stated?_dropReturn (piece : List Char) : stated? (dropReturn piece) = stated? piece := by
  by_cases h : '\r' ∈ piece.getLast?
  · obtain ⟨line, rfl⟩ := List.getLast?_eq_some_iff.mp h
    have hreturn : Blanks ['\r'] := by
      intro c hc
      rw [List.mem_singleton.mp hc]
      decide
    rw [dropReturn_append_return]
    exact (stated?_pad (w := []) nofun hreturn).symm
  · rw [dropReturn_of_getLast? h]

/-! ## One line after the other -/

variable {ls ls' : List (List Char)}

/-- **A block depends on what its lines state**, one line after the other. -/
theorem ofBlock_block_cons_congr (hline : stated? line = stated? line')
    (hrest : ∀ n, ofBlock n (block ls) = ofBlock n (block ls')) (n : Nat) :
    ofBlock n (block (line :: ls)) = ofBlock n (block (line' :: ls')) := by
  rw [stated?, stated?] at hline
  cases hsplit : splitLine line with
  | none =>
    cases hsplit' : splitLine line' with
    | none => rw [block_cons_of_none hsplit, block_cons_of_none hsplit']
    | some entry' => simp [hsplit, hsplit'] at hline
  | some entry =>
    cases hsplit' : splitLine line' with
    | none => simp [hsplit, hsplit'] at hline
    | some entry' =>
      obtain ⟨key, rest⟩ := entry
      obtain ⟨key', rest'⟩ := entry'
      simp only [hsplit, hsplit', Option.map_some, Option.some.injEq, Prod.mk.injEq] at hline
      obtain ⟨rfl, hvalue⟩ := hline
      rw [block_cons_of_some hsplit, block_cons_of_some hsplit', ofBlock, ofBlock, hvalue, hrest]

/-- A line that ends states the same, in whichever way it ends. -/
theorem exists_lines_append (e : LineEnd) (h : '\n' ∉ line) (rest : List Char) :
    ∃ line', lines (line ++ (e.chars ++ rest)) = line' :: lines rest ∧
      stated? line' = stated? line := by
  obtain ⟨w, hw, hfeed, hchars⟩ : ∃ w, Blanks w ∧ '\n' ∉ w ∧ e.chars = w ++ ['\n'] := by
    cases e with
    | lineFeed => exact ⟨[], nofun, nofun, rfl⟩
    | returnLineFeed => exact ⟨['\r'], List.all_eq_true.mp (by decide), by decide, rfl⟩
  have hpiece : '\n' ∉ line ++ w := by
    rw [List.mem_append, not_or]
    exact ⟨h, hfeed⟩
  refine ⟨dropReturn (line ++ w), ?_, ?_⟩
  · rw [hchars, ← lines_append hpiece]
    simp only [List.append_assoc, List.singleton_append]
  · rw [stated?_dropReturn]
    exact stated?_pad (w := []) nofun hw

theorem Padding.notMem_append (hw : Padding w) (hw' : Padding w') (h : '\n' ∉ line) :
    '\n' ∉ w ++ (line ++ w') := by
  simp [hw.2, hw'.2, h]

/-- **Respaced texts have the same block of directives**, and the same fault if there is one. -/
theorem Respaced.ofBlock_eq {text text' : List Char} (h : Respaced text text') (n : Nat) :
    ofBlock n (block (lines text')) = ofBlock n (block (lines text)) := by
  -- by induction on the lines; either both of a pair belong to the leading run or neither does
  induction h generalizing n with
  | @last line w w' h hw hw' =>
    rcases eq_or_ne line [] with rfl | hne
    · -- where there was no line there is none, or one of blanks only
      have hblank : ¬ HasShape (w ++ ([] ++ w')) := not_hasShape_of_blanks (hw.1.append hw'.1)
      rcases eq_or_ne (w ++ ([] ++ w')) [] with hnil | hne
      · rw [hnil]
      · rw [lines_of_notMem hne (hw.notMem_append hw' h),
          block_cons_of_none (splitLine_eq_none_iff.mpr hblank)]
        rfl
    · have hne' : w ++ (line ++ w') ≠ [] := by simp [hne]
      rw [lines_of_notMem hne h, lines_of_notMem hne' (hw.notMem_append hw' h)]
      exact ofBlock_block_cons_congr (stated?_pad hw.1 hw'.1) (fun _ => rfl) n
  | ended e e' h hw hw' _ ih =>
    obtain ⟨line, hlines, hline⟩ := exists_lines_append e h _
    obtain ⟨line', hlines', hline'⟩ := exists_lines_append e' (hw.notMem_append hw' h) _
    rw [hlines, hlines']
    exact ofBlock_block_cons_congr (by rw [hline, hline', stated?_pad hw.1 hw'.1]) ih n

/-- **The spacing of lines does not matter for directives.** Two texts of which one has more blanks
at the edges of its lines, or other line ends, have the same directives with the same numbers of
lines; or they have the same fault, in the same line, for the same reason and at the same offset in
the value. -/
theorem directives_respaced (path : Path) {text text' : String}
    (h : Respaced text.toList text'.toList) :
    TestInput.directives path text' = TestInput.directives path text := by
  rw [TestInput.directives, TestInput.directives, parse, parse, h.ofBlock_eq]

/-- The blanks behind an unfinished string are not taken for a part of it. -/
theorem directives_respaced_of_unterminated :
    TestInput.directives "model.m" "\u00a0--a: 1\t\r\r\n\x0c --b : 'c: -- \r" =
      TestInput.directives "model.m" "--a: 1\n --b : 'c: --" := by
  have hpadding : ∀ {w : List Char}, w.all isBlank = true → '\n' ∉ w → Padding w :=
    fun hall hfeed => ⟨List.all_eq_true.mp hall, hfeed⟩
  have hlast : Respaced " --b : 'c: --".toList ("\x0c".toList ++ (" --b : 'c: --".toList ++
      " \r".toList)) :=
    .last (by decide) (hpadding (by decide) (by decide)) (hpadding (by decide) (by decide))
  have hall : Respaced ("--a: 1".toList ++ (LineEnd.lineFeed.chars ++ " --b : 'c: --".toList))
      ("\u00a0".toList ++ ("--a: 1".toList ++ "\t\r".toList) ++ (LineEnd.returnLineFeed.chars ++
        ("\x0c".toList ++ (" --b : 'c: --".toList ++ " \r".toList)))) :=
    .ended .lineFeed .returnLineFeed (by decide) (hpadding (by decide) (by decide))
      (hpadding (by decide) (by decide)) hlast
  exact directives_respaced "model.m" hall

end Conformance.Directive
