import Conformance.Literal.Printer
import Conformance.Proofs.Literal.Reading

/-!
# Literals written and read back

The canonical text of a literal denotes it, so that it is read back as the same literal. Fewer
characters are escaped than could be: what is written as it stands has to be an item of its own, and
what is escaped has to be one of the escapes that stand for a single character.

## Main results

* `quoted_flatMap_escapeChar`: the items of a written string stand for it
* `integerText_toString`: a written integer has its value
* `denotes_renderChars`: a written literal denotes itself
* `parse_render`: a written literal is read back
* `Denotes.trim_eq`, `lineEnd_notMem_renderChars`: it is not changed by trimming, and stands in a line
-/

namespace Conformance.Literal

open Text

variable {core text value rest : List Char} {c : Char} {v : Literal}

/-! ## Strings -/

/-- A character inside quotes is one item, and stands for itself. -/
theorem Quoted.escapeChar_append (c : Char) (h : Quoted false '\'' text value) :
    Quoted false '\'' (escapeChar c ++ text) (c :: value) := by
  unfold escapeChar
  split
  · exact .pair '\\' h
  · exact .pair '\'' h
  · exact .pair 'n' h
  · exact .pair 't' h
  · exact .pair 'r' h
  · next hbackslash hquote _ _ _ => exact .plain hbackslash hquote h

/-- **The items of a written string stand for it**, whatever its characters are. -/
theorem quoted_flatMap_escapeChar (value : List Char) :
    Quoted false '\'' (value.flatMap escapeChar) value := by
  induction value with
  | nil => exact .nil
  | cons c value ih => exact ih.escapeChar_append c

theorem stringText_quoted (s : String) : StringText (quoted s.toList) s := by
  have h := StringText.cooked (.inl rfl) (quoted_flatMap_escapeChar s.toList)
  rwa [String.ofList_toList] at h

/-! ## Integers -/

theorem isAsciiDigit_of_mem_toDigits {n : Nat} (h : c ∈ Nat.toDigits 10 n) :
    isAsciiDigit c = true :=
  Nat.isDigit_of_mem_toDigits (by decide) (by decide) h

theorem separated_of_digits (h : ∀ c ∈ text, isAsciiDigit c = true) : Separated text := by
  induction text with
  | nil => exact .nil
  | cons d text ih =>
    rw [List.forall_mem_cons] at h
    exact .digit h.1 (ih h.2)

theorem decimalValue_toDigits (n : Nat) : decimalValue (Nat.toDigits 10 n) = n := by
  have hdigits : (Nat.toDigits 10 n).filter (· ≠ '_') = Nat.toDigits 10 n := by
    rw [List.filter_eq_self]
    intro c hc
    simpa using ne_underscore_of_digit (isAsciiDigit_of_mem_toDigits hc)
  have hfold : digitsValue (Nat.toDigits 10 n) = Nat.ofDigitChars 10 (Nat.toDigits 10 n) 0 := by
    simp only [digitsValue, Nat.ofDigitChars, Nat.mul_comm]
  rw [← digitsValue_filter, hdigits, hfold, Nat.ofDigitChars_toDigits (by decide) (by decide)]

/-- The digits of a natural number behind a sign are an integer. -/
theorem integerText_toDigits {sign : List Char} {negative : Bool} (hs : Sign sign negative)
    (n : Nat) :
    IntegerText (sign ++ Nat.toDigits 10 n) (if negative = true then -(n : Int) else n) := by
  have hdigits : ∀ c ∈ Nat.toDigits 10 n, isAsciiDigit c = true :=
    fun c hc => isAsciiDigit_of_mem_toDigits hc
  have hvalue := decimalValue_toDigits n
  cases hn : Nat.toDigits 10 n with
  | nil => exact absurd hn Nat.toDigits_ne_nil
  | cons d text =>
    rw [hn, List.forall_mem_cons] at hdigits
    rw [hn] at hvalue
    have h := IntegerText.intro hs hdigits.1 (separated_of_digits hdigits.2)
    rwa [hvalue] at h

/-- **A written integer has its value.** The least integer is no exception: its sign is written
before the digits of its distance from zero. -/
theorem integerText_toString (n : Int) : IntegerText (toString n).toList n := by
  rw [Int.toString_eq_repr, Int.repr_eq_if]
  split
  · next hn =>
    have h := integerText_toDigits .none n.toNat
    rw [Nat.toList_repr]
    simpa [Int.toNat_of_nonneg hn] using h
  · next hn =>
    have h := integerText_toDigits .minus (-n).toNat
    have hneg : -((-n).toNat : Int) = n := by omega
    rw [if_pos rfl, hneg] at h
    rw [String.toList_append, Nat.toList_repr]
    exact h

/-! ## Lists -/

theorem blanks_space : Blanks [' '] := by
  simp [Blanks, isBlank, CodeRanges.contains, blankRanges]

theorem listTail_renderItems (item : String) (items : List String) :
    ∃ tail, ListTail tail items ∧
      renderItems (item :: items) ++ [']'] = quoted item.toList ++ tail := by
  induction items generalizing item with
  | nil => exact ⟨_, .close (w := []) nofun, rfl⟩
  | cons next items ih =>
    -- the item and its separator stand before the text of the shorter list
    obtain ⟨tail, htail, hnext⟩ := ih next
    refine ⟨_, .next (w := []) nofun blanks_space (stringText_quoted next) htail, ?_⟩
    rw [renderItems, List.append_assoc, List.append_assoc, hnext]
    · rfl
    · exact nofun

/-! ## Literals -/

/-- **A written literal denotes itself.** -/
theorem denotes_renderChars (v : Literal) : Denotes v.renderChars v := by
  cases v with
  | boolean value =>
    cases value
    all_goals exact .boolean (by decide)
  | integer value => exact .integer (integerText_toString value.toInt)
  | string value => exact .string (stringText_quoted value)
  | list values =>
    cases values with
    | nil => exact .emptyList (w := []) nofun
    | cons item items =>
      obtain ⟨tail, htail, htext⟩ := listTail_renderItems item items
      have h := Denotes.list (w := []) nofun (stringText_quoted item) htail
      rw [List.nil_append, ← htext] at h
      exact h
  | pattern p =>
    have hnil : Blanks [] := nofun
    have h := Denotes.compiled (p := p) hnil hnil (stringText_quoted p.source) hnil
    have hname : "re.compile(".toList = "re.compile".toList ++ ['('] := by decide
    rw [renderChars_pattern, hname]
    simp only [List.append_assoc, List.singleton_append, List.nil_append] at h ⊢
    exact h

theorem parseChars_of_denotes (h : Denotes core v) : parseChars core = .ok v := by
  -- nothing follows the literal, and there is fuel for its length
  have hend : EndsWord [] := nofun
  have hfuel : core.length + 3 ≤ fuelFor core := by
    rw [fuelFor]
    omega
  have hread := readValue_of_denotes h hend hfuel
  rw [List.append_nil] at hread
  exact parseChars_eq_ok_iff.mpr ⟨[], hread, rfl⟩

theorem parseChars_renderChars (v : Literal) : parseChars v.renderChars = .ok v :=
  parseChars_of_denotes (denotes_renderChars v)

/-- **A written literal is read back** as the literal that was written. -/
theorem parse_render (v : Literal) : parse v.render = .ok v := by
  rw [parse, render, String.toList_ofList]
  exact parseChars_renderChars v

/-! ## Literals within a line -/

theorem trimStart_of_head? {s : List Char} (h : ∀ c ∈ s.head?, isBlank c = false) :
    trimStart s = s := by
  cases s with
  | nil => rfl
  | cons c s => exact trimStart_cons (h c rfl) s

theorem trim_blanks_append {w : List Char} (hw : Blanks w) (s : List Char) :
    trim (w ++ s) = trim s := by
  rw [trim, trim, trimStart_blanks_append hw]

/-- A text with no blank at either end is not changed by trimming. -/
theorem trim_of_ends {s : List Char} (hstart : ∀ c ∈ s.head?, isBlank c = false)
    (hend : ∀ c ∈ s.getLast?, isBlank c = false) : trim s = s := by
  rw [← List.head?_reverse] at hend
  have hreverse : s.reverse.dropWhile isBlank = s.reverse := trimStart_of_head? hend
  rw [trim, trimStart_of_head? hstart, trimEnd, hreverse, List.reverse_reverse]

theorem IntegerText.not_isBlank {n : Int} (h : IntegerText text n) :
    ∀ c ∈ text, isBlank c = false := by
  have hdigit : ∀ d, isAsciiDigit d = true → isBlank d = false := fun d hd =>
    not_isBlank_of_beginsInteger (by simp [beginsInteger, hd])
  have hseparated : ∀ t, Separated t → ∀ c ∈ t, isBlank c = false := by
    intro t ht
    induction ht with
    | nil => exact fun _ hc => absurd hc List.not_mem_nil
    | digit hd _ ih => exact List.forall_mem_cons.mpr ⟨hdigit _ hd, ih⟩
    | underscore hd _ ih =>
      exact List.forall_mem_cons.mpr ⟨by decide, List.forall_mem_cons.mpr ⟨hdigit _ hd, ih⟩⟩
  obtain ⟨hs, hd, ht⟩ := h
  have hbody := hseparated _ (.digit hd ht)
  cases hs with
  | none => exact hbody
  | plus => exact List.forall_mem_cons.mpr ⟨by decide, hbody⟩
  | minus => exact List.forall_mem_cons.mpr ⟨by decide, hbody⟩

theorem StringText.not_isBlank_getLast? {s : String} (h : StringText text s) :
    ∀ c ∈ text.getLast?, isBlank c = false := by
  have hquote : ∀ q, q = '\'' ∨ q = '"' → isBlank q = false := by
    rintro q (rfl | rfl)
    all_goals decide
  cases h with
  | cooked hq _ => simpa [List.getLast?_cons] using hquote _ hq
  | raw hq _ => simpa [List.getLast?_cons] using hquote _ hq

theorem ListTail.getLast?_eq {tail : List Char} {items : List String} (h : ListTail tail items) :
    tail.getLast? = some ']' := by
  induction h with
  | close => simp
  | trailing => simp [List.getLast?_cons]
  | next _ _ _ _ ih => simp [List.getLast?_cons, ih]

/-- **A literal has no blank at either end**, so that it is not changed by trimming. -/
theorem Denotes.trim_eq (h : Denotes core v) : trim core = core := by
  have hbooleans : ∀ p ∈ booleans, trim p.1 = p.1 := by decide
  -- what is no word and no number opens and closes with a delimiter of its own
  have hclosed : isBlank ']' = false ∧ isBlank ')' = false ∧ isBlank '/' = false ∧
      isBlank '[' = false ∧ isBlank 'r' = false := by decide
  cases h with
  | boolean h => exact hbooleans _ h
  | integer h =>
    exact trim_of_ends (fun c hc => h.not_isBlank c (List.mem_of_mem_head? hc))
      (fun c hc => h.not_isBlank c (List.mem_of_mem_getLast? hc))
  | string h =>
    obtain ⟨c, body, rfl, hc, -⟩ := h.exists_head
    exact trim_of_ends (by simpa using hc) h.not_isBlank_getLast?
  | emptyList => exact trim_of_ends (by simp [hclosed]) (by simp [List.getLast?_cons, hclosed])
  | list _ _ h =>
    exact trim_of_ends (by simp [hclosed]) (by simp [List.getLast?_cons, h.getLast?_eq, hclosed])
  | compiled => exact trim_of_ends (by simp [hclosed]) (by simp [List.getLast?_cons, hclosed])
  | slashed => exact trim_of_ends (by simp [hclosed]) (by simp [List.getLast?_cons, hclosed])

section LineEnd

variable (hc : c = '\n' ∨ c = '\r')
include hc

theorem notMem_of_lineEnd {s : List Char} (h : '\n' ∉ s ∧ '\r' ∉ s) : c ∉ s := by
  rcases hc with rfl | rfl
  · exact h.1
  · exact h.2

theorem lineEnd_notMem_escapeChar (d : Char) : c ∉ escapeChar d := by
  apply notMem_of_lineEnd hc
  unfold escapeChar
  split
  iterate 5 decide
  next hlineFeed _ hreturn =>
    exact ⟨fun h => hlineFeed (List.mem_singleton.mp h).symm,
      fun h => hreturn (List.mem_singleton.mp h).symm⟩

theorem lineEnd_notMem_quoted (value : List Char) : c ∉ quoted value := by
  have hquote := notMem_of_lineEnd hc (s := ['\'']) (by decide)
  simpa [quoted, lineEnd_notMem_escapeChar hc] using hquote

theorem lineEnd_notMem_renderItems (items : List String) : c ∉ renderItems items := by
  have hcomma := notMem_of_lineEnd hc (s := ", ".toList) (by decide)
  induction items with
  | nil => exact nofun
  | cons s items ih =>
    cases items with
    | nil => exact lineEnd_notMem_quoted hc s.toList
    | cons t items =>
      rw [renderItems, List.mem_append, List.mem_append, not_or, not_or]
      · exact ⟨⟨lineEnd_notMem_quoted hc s.toList, hcomma⟩, ih⟩
      · exact nofun

/-- **A written literal stands in one line**, whatever the strings in it contain: no character that
could end a line is left as it stands. -/
theorem lineEnd_notMem_renderChars (v : Literal) : c ∉ v.renderChars := by
  cases v with
  | boolean value =>
    apply notMem_of_lineEnd hc
    cases value
    all_goals decide
  | integer value =>
    -- no character of an integer is a blank, but both ends of lines are
    intro hmem
    have hblank := (integerText_toString value.toInt).not_isBlank c hmem
    rcases hc with rfl | rfl
    all_goals exact absurd hblank (by decide)
  | string value => exact lineEnd_notMem_quoted hc value.toList
  | list values =>
    have hbrackets := notMem_of_lineEnd hc (s := ['[', ']']) (by decide)
    simpa [renderChars_list, lineEnd_notMem_renderItems hc] using hbrackets
  | pattern p =>
    have hname := notMem_of_lineEnd hc (s := "re.compile(".toList) (by decide)
    have hclose := notMem_of_lineEnd hc (s := [')']) (by decide)
    rw [renderChars_pattern, List.mem_append, List.mem_append, not_or, not_or]
    exact ⟨⟨hname, lineEnd_notMem_quoted hc p.source.toList⟩, hclose⟩

end LineEnd

end Conformance.Literal
