import Conformance.Directive.Position
import Conformance.Proofs.Directive.Block
import Conformance.Proofs.Literal.Position

/-!
# The parts of a directive

A line of the shape of a directive has one key and one rest, and the blanks between its parts can be
told apart in one way only: the rest stands behind the first colon of the line. By position the line
is taken apart in the same way, and every piece that is taken out of it is between two characters.

## Main definitions

* `Parts`, `Parts.line`: the parts of a directive, and the line that they make up

## Main results

* `Parts.line_injective`: a line is made up of its parts in one way only
* `splitLine_eq_some_iff_parts`: the lines that are made up of parts are those that can be split
* `cutKey_eq`, `cutLine_eq`: by position a line is taken apart in the same way
* `directive_line_exact`: the lines of the shape of a directive, their parts and their pieces
-/

namespace Conformance.Directive

open Text
open Literal (Blanks byteLength)
open Literal.Scanner (Boundary boundary_iff_isValid slice?_eq_some_iff)

/-! ## The parts of a line -/

/-- **The parts of a directive**: a key and what stands behind its colon, and the blanks before the
hyphens, the key and the colon. -/
@[ext]
structure Parts where
  beforeHyphens : List Char
  beforeKey : List Char
  key : List Char
  beforeColon : List Char
  rest : List Char
  blanks_beforeHyphens : Blanks beforeHyphens
  blanks_beforeKey : Blanks beforeKey
  isKey : IsKey key
  blanks_beforeColon : Blanks beforeColon

namespace Parts

/-- What stands before the colon. -/
def front (p : Parts) : List Char :=
  p.beforeHyphens ++ '-' :: '-' :: (p.beforeKey ++ (p.key ++ p.beforeColon))

/-- The line that the parts make up. -/
def line (p : Parts) : List Char :=
  p.front ++ ':' :: p.rest

variable {p q : Parts}

theorem line_eq (p : Parts) :
    p.line = p.beforeHyphens ++ '-' :: '-' ::
      (p.beforeKey ++ (p.key ++ (p.beforeColon ++ ':' :: p.rest))) := by
  simp only [line, front, List.append_assoc, List.cons_append]

theorem shape (p : Parts) : Shape p.line p.key p.rest := by
  rw [p.line_eq]
  exact .intro p.blanks_beforeHyphens p.blanks_beforeKey p.isKey p.blanks_beforeColon

/-- The colon is the first one of its line. -/
theorem colon_notMem_front (p : Parts) : ':' ∉ p.front := by
  have hblank : ∀ {w : List Char}, Blanks w → ':' ∉ w := fun hw hmem =>
    absurd (hw _ hmem) (by decide)
  have hkey : ':' ∉ p.key := fun hmem => absurd (p.isKey.isWordChar _ hmem) (by decide)
  simp [front, hblank p.blanks_beforeHyphens, hblank p.blanks_beforeKey, hkey,
    hblank p.blanks_beforeColon]

end Parts

/-- Characters of a class before one outside it can be told apart in one way only. -/
theorem eq_of_append_eq {inside : Char → Bool} {w w' cs cs' : List Char}
    (hw : ∀ c ∈ w, inside c = true) (hw' : ∀ c ∈ w', inside c = true)
    (hend : ∀ c ∈ cs.head?, inside c = false) (hend' : ∀ c ∈ cs'.head?, inside c = false)
    (h : w ++ cs = w' ++ cs') : w = w' ∧ cs = cs' := by
  constructor
  · rw [← Literal.takeWhile_word hw hend, h, Literal.takeWhile_word hw' hend']
  · rw [← Literal.dropWhile_word hw hend, h, Literal.dropWhile_word hw' hend']

/-- A key begins with a character that is not a blank. -/
theorem IsKey.not_isBlank_head? {key : List Char} (h : IsKey key) (cs : List Char) :
    ∀ c ∈ (key ++ cs).head?, isBlank c = false := by
  have hword := h.isWordChar
  obtain ⟨c, key, rfl, -⟩ := h
  rintro d ⟨⟩
  exact not_isBlank_of_isWordChar (hword c List.mem_cons_self)

/-- **A line is made up of its parts in one way only.** -/
theorem Parts.line_injective : Function.Injective Parts.line := by
  intro p q h
  obtain ⟨hkey, -⟩ := p.shape.unique (h ▸ q.shape)
  rw [p.line_eq, q.line_eq] at h
  -- the blanks before a part end where the part begins
  have hhyphen : ∀ cs : List Char, ∀ c ∈ ('-' :: cs).head?, isBlank c = false := by
    rintro cs c ⟨⟩
    decide
  have hcolon : ∀ cs : List Char, ∀ c ∈ (':' :: cs).head?, isBlank c = false := by
    rintro cs c ⟨⟩
    decide
  obtain ⟨hbeforeHyphens, h⟩ := eq_of_append_eq p.blanks_beforeHyphens q.blanks_beforeHyphens
    (hhyphen _) (hhyphen _) h
  obtain ⟨hbeforeKey, h⟩ := eq_of_append_eq p.blanks_beforeKey q.blanks_beforeKey
    (p.isKey.not_isBlank_head? _) (q.isKey.not_isBlank_head? _)
    (List.cons.inj (List.cons.inj h).2).2
  rw [hkey] at h
  obtain ⟨hbeforeColon, h⟩ := eq_of_append_eq p.blanks_beforeColon q.blanks_beforeColon
    (hcolon _) (hcolon _) (List.append_cancel_left h)
  exact Parts.ext hbeforeHyphens hbeforeKey hkey hbeforeColon (List.cons.inj h).2

variable {line key rest content : List Char}

/-- **The lines that are made up of parts are those that can be split.** -/
theorem splitLine_eq_some_iff_parts :
    splitLine line = some (key, rest) ↔
      ∃ p : Parts, p.line = line ∧ p.key = key ∧ p.rest = rest := by
  rw [splitLine_eq_some_iff]
  constructor
  · rintro ⟨hw, hw', hkey, hw''⟩
    exact ⟨⟨_, _, _, _, _, hw, hw', hkey, hw''⟩, Parts.line_eq _, rfl, rfl⟩
  · rintro ⟨p, rfl, rfl, rfl⟩
    exact p.shape

/-! ## Positions -/

/-- The search for a position outside of a class ends where the characters of the class do. -/
theorem find?_charPositions (pos : Nat) (cs : List Char) :
    (((charPositions pos cs).find? fun e => !isWordChar e.2).map Prod.fst).getD
        (pos + byteLength cs) =
      pos + byteLength (cs.takeWhile isWordChar) := by
  induction cs generalizing pos with
  | nil => rfl
  | cons c cs ih =>
    cases hc : isWordChar c with
    | false => simp [charPositions, hc]
    | true =>
      have hrest := ih (pos + c.utf8Size)
      simpa [charPositions, hc, Nat.add_assoc] using hrest

theorem keyEnd_cons (c : Char) (cs : List Char) :
    keyEnd (c :: cs) = byteLength (c :: cs.takeWhile isWordChar) := by
  have h := find?_charPositions (0 + c.utf8Size) cs
  simpa [keyEnd, charPositions] using h

/-- The piece up to the end of the key is the key. -/
theorem chars?_key (c : Char) (cs : List Char) :
    Piece.chars? ⟨c :: cs, 0, keyEnd (c :: cs)⟩ = some (c :: cs.takeWhile isWordChar) := by
  rw [Piece.chars?, slice?_eq_some_iff]
  refine ⟨[], cs.dropWhile isWordChar, ?_, rfl, keyEnd_cons c cs⟩
  rw [List.nil_append, List.cons_append, List.takeWhile_append_dropWhile]

theorem chars?_behind (c : Char) (cs : List Char) :
    Piece.chars? ⟨c :: cs, keyEnd (c :: cs), byteLength (c :: cs)⟩ =
      some (cs.dropWhile isWordChar) := by
  rw [Piece.chars?, slice?_eq_some_iff]
  refine ⟨c :: cs.takeWhile isWordChar, [], ?_, keyEnd_cons c cs, ?_⟩
  all_goals rw [List.cons_append, List.takeWhile_append_dropWhile]
  rw [List.append_nil]

/-- A piece that is there is between two positions in order, each of them between two characters. -/
theorem Piece.sound_of_chars? {p : Piece} {cs : List Char} (h : p.chars? = some cs) :
    p.start ≤ p.stop ∧ Boundary p.text p.start ∧ Boundary p.text p.stop := by
  obtain ⟨before, after, htext, hstart, hstop⟩ := slice?_eq_some_iff.mp h
  refine ⟨?_, ⟨before, cs ++ after, ?_, hstart⟩, ⟨before ++ cs, after, htext, hstop⟩⟩
  · rw [hstart, hstop, Literal.byteLength_append]
    exact Nat.le_add_right ..
  · rw [htext, List.append_assoc]

theorem splitKey_of_no_colon {c : Char} {cs : List Char}
    (h : ∀ rest, trimStart (cs.dropWhile isWordChar) ≠ ':' :: rest) :
    splitKey (c :: cs) = none := by
  by_cases hc : beginsKey c = true
  · rw [splitKey, if_pos hc]
    split
    · next rest hcolon => exact absurd hcolon (h rest)
    · rfl
  · rw [splitKey, if_neg hc]

/-- The two pieces that are taken out of a text that begins like a key. -/
def keyPieces (content : List Char) : List Piece :=
  [⟨content, 0, keyEnd content⟩, ⟨content, keyEnd content, byteLength content⟩]

theorem cutKey_of_beginsKey {c : Char} (hc : beginsKey c = true) (cs : List Char) :
    cutKey (c :: cs) =
      match trimStart (cs.dropWhile isWordChar) with
      | ':' :: rest => (.done (some (c :: cs.takeWhile isWordChar, rest)), keyPieces (c :: cs))
      | _ => (.done none, keyPieces (c :: cs)) := by
  simp only [cutKey, List.head?_cons, Option.any_some, hc, if_true, chars?_key, chars?_behind]
  rfl

theorem exists_chars?_of_mem_keyPieces {c : Char} {cs : List Char} :
    ∀ p ∈ keyPieces (c :: cs), ∃ taken, p.chars? = some taken := by
  rw [keyPieces, List.forall_mem_cons, List.forall_mem_singleton]
  exact ⟨⟨_, chars?_key c cs⟩, _, chars?_behind c cs⟩

/-- **By position a key is taken apart in the same way**, and its pieces are there. -/
theorem cutKey_eq (content : List Char) :
    (cutKey content).1 = .done (splitKey content) ∧
      ∀ p ∈ (cutKey content).2, ∃ cs, p.chars? = some cs := by
  cases content with
  | nil => exact ⟨rfl, nofun⟩
  | cons c cs =>
    by_cases hc : beginsKey c = true
    · rw [cutKey_of_beginsKey hc]
      by_cases hcolon : ∃ rest, trimStart (cs.dropWhile isWordChar) = ':' :: rest
      · obtain ⟨rest, hcolon⟩ := hcolon
        have hsplit : splitKey (c :: cs) = some (c :: cs.takeWhile isWordChar, rest) := by
          simp only [splitKey, hc, hcolon, if_true]
        rw [hcolon, hsplit]
        exact ⟨rfl, exists_chars?_of_mem_keyPieces⟩
      · rw [splitKey_of_no_colon (not_exists.mp hcolon)]
        split
        · next rest hrest => exact absurd ⟨rest, hrest⟩ hcolon
        · exact ⟨rfl, exists_chars?_of_mem_keyPieces⟩
    · simp [cutKey, splitKey, hc]

/-- **By position a line is taken apart in the same way**, and its pieces are there. -/
theorem cutLine_eq (line : List Char) :
    (cutLine line).1 = .done (splitLine line) ∧
      ∀ p ∈ (cutLine line).2, ∃ cs, p.chars? = some cs := by
  by_cases hopen : ∃ cs, trimStart line = '-' :: '-' :: cs
  · obtain ⟨cs, hopen⟩ := hopen
    simp only [cutLine, splitLine, hopen]
    exact cutKey_eq _
  · have hsplit : splitLine line = none := by
      unfold splitLine
      split
      · next cs hcs => exact absurd ⟨cs, hcs⟩ hopen
      · rfl
    have hcut : cutLine line = (.done none, []) := by
      unfold cutLine
      split
      · next cs hcs => exact absurd ⟨cs, hcs⟩ hopen
      · rfl
    rw [hsplit, hcut]
    exact ⟨rfl, nofun⟩

/-- **The lines of the shape of a directive are those that are made up of the parts of one**, and a
line is made up of parts in one way only: its rest stands behind its first colon, whatever is in it.
By position it is taken apart in the same way; so no piece is missing, and all of them are between
valid positions in order. -/
theorem directive_line_exact (line : List Char) :
    (∀ key rest, splitLine line = some (key, rest) ↔
        ∃ p : Parts, p.line = line ∧ p.key = key ∧ p.rest = rest) ∧
      (∀ p q : Parts, p.line = line → q.line = line → p = q) ∧
      (∀ p : Parts, p.line = line →
        ∀ front back, line = front ++ ':' :: back → ':' ∉ front → back = p.rest) ∧
      (cutLine line).1 = .done (splitLine line) ∧
      ∀ p ∈ (cutLine line).2, p.start ≤ p.stop ∧
        String.Pos.Raw.IsValid (String.ofList p.text) ⟨p.start⟩ ∧
        String.Pos.Raw.IsValid (String.ofList p.text) ⟨p.stop⟩ := by
  obtain ⟨hcut, hpieces⟩ := cutLine_eq line
  refine ⟨fun key rest => splitLine_eq_some_iff_parts, fun p q hp hq => ?_, ?_, hcut,
    fun p hp => ?_⟩
  · exact Parts.line_injective (hp.trans hq.symm)
  · rintro p rfl front back hline hfront
    -- both are what is behind the first colon
    have hother : ∀ {cs : List Char}, ':' ∉ cs → ∀ c ∈ cs, (c != ':') = true := fun hcs c hc =>
      bne_iff_ne.mpr (ne_of_mem_of_not_mem hc hcs)
    obtain ⟨-, hsame⟩ := eq_of_append_eq (hother hfront) (hother p.colon_notMem_front)
      (by simp) (by simp) hline.symm
    exact (List.cons.inj hsame).2
  · obtain ⟨cs, hcs⟩ := hpieces p hp
    obtain ⟨hle, hstart, hstop⟩ := Piece.sound_of_chars? hcs
    rw [← String.toList_ofList (l := p.text)] at hstart hstop
    exact ⟨hle, boundary_iff_isValid.mp hstart, boundary_iff_isValid.mp hstop⟩

-- the accented letter takes two bytes, so that the key ends at position 3
example : (cutLine "--k\u00e9: --".toList).2 =
    [⟨"k\u00e9: --".toList, 0, 3⟩, ⟨"k\u00e9: --".toList, 3, 7⟩] := by
  rfl

end Conformance.Directive
