import Conformance.Text.Split
import Mathlib.Data.List.Basic

/-!
# The lines of a text

The lines of a text as pieces of it, without regard to how they are found: what stands before a line
feed, or before a carriage return and a line feed, and at last what stands behind all of them. A
carriage return anywhere else belongs to its line.

## Main definitions

* `LineEnd`: the two ways in which a line may end
* `Lined`: a text and the lines it is made of

## Main results

* `lines_append_lineEnd`: a line and its end are split off
* `lined_iff`: every text is made of its lines, and of no others
-/

namespace Conformance.Text

/-- The two ways in which a line may end. -/
inductive LineEnd where
  | lineFeed
  | returnLineFeed
deriving DecidableEq

/-- The characters that end a line. -/
def LineEnd.chars : LineEnd → List Char
  | lineFeed => ['\n']
  | returnLineFeed => ['\r', '\n']

/-- **A text and the lines it is made of.** The end of the last line may be missing, and a carriage
return before a line feed always belongs to the end of the line. -/
inductive Lined : List Char → List (List Char) → Prop
  | nil : Lined [] []
  | last {line : List Char} (hne : line ≠ []) (h : '\n' ∉ line) : Lined line [line]
  | ended {line rest : List Char} {ls : List (List Char)} (e : LineEnd) (h : '\n' ∉ line)
    (hr : e = .lineFeed → '\r' ∉ line.getLast?) (hrest : Lined rest ls) :
    Lined (line ++ (e.chars ++ rest)) (line :: ls)

variable {sep : Char} {piece line rest : List Char}

/-! ## Pieces -/

/-- The pieces on both sides of a separator. -/
theorem splitAt_append_cons (cs rest : List Char) :
    splitAt sep (cs ++ sep :: rest) = splitAt sep cs ++ splitAt sep rest := by
  induction cs with
  | nil => simp [splitAt]
  | cons c cs ih =>
    rw [List.cons_append, splitAt, splitAt, ih]
    split
    · rfl
    · cases hcs : splitAt sep cs with
      | nil => exact absurd hcs (splitAt_ne_nil sep cs)
      | cons piece pieces => rfl

theorem splitAt_of_notMem (h : sep ∉ piece) : splitAt sep piece = [piece] := by
  induction piece with
  | nil => rfl
  | cons c piece ih =>
    rw [List.mem_cons, not_or] at h
    rw [splitAt, if_neg (Ne.symm h.1), ih h.2]

/-- The first piece is split off. -/
theorem splitAt_append (h : sep ∉ piece) (rest : List Char) :
    splitAt sep (piece ++ sep :: rest) = piece :: splitAt sep rest := by
  rw [splitAt_append_cons, splitAt_of_notMem h, List.singleton_append]

/-! ## Carriage returns -/

theorem dropReturn_append_return (line : List Char) : dropReturn (line ++ ['\r']) = line := by
  induction line with
  | nil => rfl
  | cons c line ih =>
    rw [List.cons_append, dropReturn, ih]
    simp

theorem dropReturn_of_getLast? (h : '\r' ∉ line.getLast?) : dropReturn line = line := by
  induction line with
  | nil => rfl
  | cons c line ih =>
    cases line with
    | nil =>
      have hc : c ≠ '\r' := by simpa using h
      simp [dropReturn, hc]
    | cons d line =>
      rw [List.getLast?_cons_cons] at h
      rw [dropReturn, ih h]
      simp

/-! ## Lines -/

theorem lines_append (h : '\n' ∉ piece) (rest : List Char) :
    lines (piece ++ '\n' :: rest) = dropReturn piece :: lines rest := by
  rw [lines, splitAt_append h]
  -- behind a separator there is always a piece, so this one is not the last
  cases hpieces : splitAt '\n' rest with
  | nil => exact absurd hpieces (splitAt_ne_nil _ _)
  | cons p pieces => rw [linesOfPieces, lines, hpieces]; simp

theorem lines_of_notMem (hne : line ≠ []) (h : '\n' ∉ line) : lines line = [line] := by
  rw [lines, splitAt_of_notMem h]
  simp [linesOfPieces, hne]

/-- **A line and its end are split off**, and the rest is a text of its own. -/
theorem lines_append_lineEnd (e : LineEnd) (h : '\n' ∉ line)
    (hr : e = .lineFeed → '\r' ∉ line.getLast?) (rest : List Char) :
    lines (line ++ (e.chars ++ rest)) = line :: lines rest := by
  cases e with
  | lineFeed =>
    have hline := lines_append h rest
    rwa [dropReturn_of_getLast? (hr rfl)] at hline
  | returnLineFeed =>
    have hreturn : '\n' ∉ line ++ ['\r'] := by simpa using h
    have hline := lines_append hreturn rest
    rw [dropReturn_append_return, List.append_assoc] at hline
    exact hline

theorem lines_of_lined {cs : List Char} {ls : List (List Char)} (h : Lined cs ls) :
    lines cs = ls := by
  induction h with
  | nil => rfl
  | last hne h => exact lines_of_notMem hne h
  | ended e h hr _ ih => rw [lines_append_lineEnd e h hr, ih]

/-- A line that is followed by a line feed ends there, or one character before. -/
theorem Lined.append {ls : List (List Char)} (h : '\n' ∉ piece) (hrest : Lined rest ls) :
    ∃ line, Lined (piece ++ '\n' :: rest) (line :: ls) := by
  by_cases hr : '\r' ∈ piece.getLast?
  · obtain ⟨line, rfl⟩ := List.getLast?_eq_some_iff.mp hr
    rw [List.mem_append, not_or] at h
    have hended := Lined.ended .returnLineFeed h.1 nofun hrest
    exact ⟨line, by simpa [LineEnd.chars] using hended⟩
  · exact ⟨piece, .ended .lineFeed h (fun _ => hr) hrest⟩

theorem exists_lined (cs : List Char) : ∃ ls, Lined cs ls := by
  by_cases h : '\n' ∈ cs
  · -- the first line feed ends the first line, and what is behind it is shorter
    obtain ⟨piece, rest, hcs, hpiece⟩ := List.eq_append_cons_of_mem h
    have hlen : rest.length < cs.length := by
      rw [hcs, List.length_append, List.length_cons]
      omega
    obtain ⟨ls, hrest⟩ := exists_lined rest
    obtain ⟨line, hline⟩ := Lined.append hpiece hrest
    exact ⟨line :: ls, hcs ▸ hline⟩
  · rcases eq_or_ne cs [] with rfl | hne
    · exact ⟨[], .nil⟩
    · exact ⟨[cs], .last hne h⟩
termination_by cs.length

/-- **Every text is made of its lines, and of no others.** -/
theorem lined_iff {cs : List Char} {ls : List (List Char)} : Lined cs ls ↔ lines cs = ls := by
  refine ⟨lines_of_lined, ?_⟩
  rintro rfl
  obtain ⟨ls, h⟩ := exists_lined cs
  rwa [lines_of_lined h]

end Conformance.Text
