import Conformance.Proofs.Directive.Block
import Conformance.Proofs.Literal.RoundTrip

/-!
# Directives written and read back

A block of directives written line by line is read back as it was written, whichever way its lines
end and whatever follows it, as long as that does not go on with a directive. Nothing in a written
literal can end its line or be taken for a part of the line around it, since the key ends at the first
colon and the literal is all that is left.

## Main definitions

* `Entry`: what is written in one line
* `Entry.line`, `written`: a line and a block of them

## Main results

* `states_line`: a written line states what was written
* `lined_written`: a written block is made of its lines
* `directives_written`: a written block is read back
-/

namespace Conformance.Directive

open Text
open Literal (Blanks)

/-- What is written in one line, and how the line ends. -/
structure Entry where
  key : String
  value : Literal
  ending : LineEnd

namespace Entry

/-- The line that states a literal under a key. -/
def line (e : Entry) : String :=
  "-- " ++ e.key ++ ": " ++ e.value.render

/-- The directive that the line with the number `n` states. -/
def directive (e : Entry) (n : Nat) : Directive :=
  ⟨e.key, e.value, n⟩

theorem toList_line (e : Entry) :
    e.line.toList = '-' :: '-' :: ([' '] ++ (e.key.toList ++ ([] ++ ':' :: ' ' ::
      e.value.renderChars))) := by
  have hstart : "-- ".toList = ['-', '-', ' '] := by decide
  have hcolon : ": ".toList = [':', ' '] := by decide
  simp [line, Literal.render, hstart, hcolon]

end Entry

/-- A block of lines. -/
def written (entries : List Entry) : List Char :=
  entries.flatMap fun e => e.line.toList ++ e.ending.chars

variable {e : Entry} {entries : List Entry} {rest : List Char} {ls : List (List Char)}

theorem shape_line (hkey : IsKey e.key.toList) :
    Shape e.line.toList e.key.toList (' ' :: e.value.renderChars) := by
  rw [e.toList_line]
  exact .intro (w := []) nofun Literal.blanks_space hkey nofun

/-- **A written line states what was written.** -/
theorem states_line (hkey : IsKey e.key.toList) (n : Nat) :
    States e.line.toList (e.directive n) := by
  refine ⟨_, shape_line hkey, ?_⟩
  have htrim := Literal.trim_blanks_append Literal.blanks_space e.value.renderChars
  rw [List.singleton_append, (Literal.denotes_renderChars e.value).trim_eq] at htrim
  rw [htrim]
  exact Literal.parseChars_renderChars e.value

/-- No character of a written line could end it. -/
theorem lineEnd_notMem_line {c : Char} (hc : c = '\n' ∨ c = '\r') (hkey : IsKey e.key.toList) :
    c ∉ e.line.toList := by
  have hblank : isBlank c = true := by
    rcases hc with rfl | rfl
    all_goals decide
  have hword : c ∉ e.key.toList := fun hmem => by
    simpa [not_isWordChar_of_blank hblank] using hkey.isWordChar c hmem
  have hpunctuation := Literal.notMem_of_lineEnd hc (s := ['-', ' ', ':']) (by decide)
  simp only [List.mem_cons, List.not_mem_nil, or_false, not_or] at hpunctuation
  rw [e.toList_line]
  simp [hpunctuation, hword, Literal.lineEnd_notMem_renderChars hc]

/-- **A written block is made of its lines**, and what follows it of its own. -/
theorem lined_written (hkeys : ∀ e ∈ entries, IsKey e.key.toList) (hrest : Lined rest ls) :
    Lined (written entries ++ rest) (entries.map (fun e => e.line.toList) ++ ls) := by
  induction entries with
  | nil => exact hrest
  | cons e entries ih =>
    rw [List.forall_mem_cons] at hkeys
    -- the line has no line feed in it, and no carriage return that its end could be read with
    have hended := Lined.ended e.ending (lineEnd_notMem_line (.inl rfl) hkeys.1)
      (fun _ hlast => lineEnd_notMem_line (.inr rfl) hkeys.1 (List.mem_of_mem_getLast? hlast))
      (ih hkeys.2)
    simpa [written] using hended

theorem forall₂_states_lines (hkeys : ∀ e ∈ entries, IsKey e.key.toList) (f : Nat → Nat) :
    List.Forall₂ States (entries.map fun e => e.line.toList)
      (entries.mapIdx fun i e => e.directive (f i)) := by
  rw [List.forall₂_iff_get]
  refine ⟨by simp, fun i hi hi' => ?_⟩
  simp only [List.get_eq_getElem, List.getElem_map, List.getElem_mapIdx]
  exact states_line (hkeys _ (List.getElem_mem _)) _

/-- **A written block of directives is read back**: its directives are what was written, in order
and with the numbers of their lines, if the text goes on with another line or ends there. -/
theorem directives_written (path : Path) (entries : List Entry)
    (hkeys : ∀ e ∈ entries, IsKey e.key.toList) (rest : List Char)
    (hrest : ∀ line ∈ (lines rest).head?, ¬ HasShape line) :
    TestInput.directives path (String.ofList (written entries ++ rest)) =
      .ok (entries.mapIdx fun i e => e.directive (i + 1)) := by
  have hlined := lined_written hkeys (lined_iff.mpr (rfl : lines rest = lines rest))
  have hshaped : ∀ line ∈ entries.map (fun e => e.line.toList), HasShape line := by
    intro line hline
    obtain ⟨e, he, rfl⟩ := List.mem_map.mp hline
    exact ⟨_, _, shape_line (hkeys e he)⟩
  -- what follows does not go on with a directive, so the written lines are the leading run
  have hblock := (leading_append hshaped hrest).forall₂_block
  have hnumbers : (entries.mapIdx fun i e => e.directive (i + 1)).map Directive.line =
      List.range' 1 entries.length := by
    apply List.ext_getElem
    · simp
    · intro i hi hi'
      simp [Entry.directive, Nat.add_comm]
  rw [TestInput.directives_eq_ok_iff, parse_of_lined (by rwa [String.toList_ofList]),
    ofBlock_eq_ok_iff hblock, List.length_mapIdx]
  exact ⟨forall₂_states_lines hkeys _, hnumbers⟩

theorem directives_written_before_blank_line :
    TestInput.directives "model.m"
        "-- skip_reason: 'a: -- b\\n'\r\n-- _\u00e91: ['\\\\', '\"']\n\n-- c: 1" =
      .ok [⟨"skip_reason", .string "a: -- b\n", 1⟩, ⟨"_\u00e91", .list ["\\", "\""], 2⟩] := by
  have hkeys : ∀ e ∈ ([⟨"skip_reason", .string "a: -- b\n", .returnLineFeed⟩,
      ⟨"_\u00e91", .list ["\\", "\""], .lineFeed⟩] : List Entry), IsKey e.key.toList := by
    rw [List.forall_mem_cons, List.forall_mem_singleton]
    have hfirst : ("kip_reason".toList.all isWordChar) = true := by decide +kernel
    have hsecond : ("\u00e91".toList.all isWordChar) = true := by decide +kernel
    exact ⟨isKey_cons (by decide) (List.all_eq_true.mp hfirst),
      isKey_cons (by decide) (List.all_eq_true.mp hsecond)⟩
  have hrest : ∀ line ∈ (lines "\n-- c: 1".toList).head?, ¬ HasShape line := by
    have hnone : ∀ line ∈ (lines "\n-- c: 1".toList).head?, splitLine line = none := by decide
    exact fun line hline => splitLine_eq_none_iff.mp (hnone line hline)
  have h := directives_written "model.m" _ hkeys _ hrest
  have htext : "-- skip_reason: 'a: -- b\\n'\r\n-- _\u00e91: ['\\\\', '\"']\n\n-- c: 1" =
      String.ofList (written [⟨"skip_reason", .string "a: -- b\n", .returnLineFeed⟩,
      ⟨"_\u00e91", .list ["\\", "\""], .lineFeed⟩] ++ "\n-- c: 1".toList) := by decide +kernel
  rw [htext, h]
  rfl

end Conformance.Directive
