import Conformance.Json.Reader
import Mathlib.Data.List.Basic

/-!
# Written JSON is read back

The text of a value denotes it, whatever the characters of its strings and its nesting are, if all
its numbers are integers. Each reader stops just where what it reads was written to end; only a
number has no end of its own, so that what stands behind it must not go on with it.

## Main definitions

* `Json.EndsNumber`: a text that does not go on with a number
* `Json.Integral`: a value whose numbers are integers
* `Json.writeFurther`: parts in lines of their own, as arrays and objects have them

## Main results

* `readString_flatMap_escapeChar`, `readNumber_toString`: strings and integers are read back
* `readAll_written`: parts in lines of their own are read back, if each of them is
* `readValue_prettyAt`, `read?_pretty_append`: values and texts are read back
-/

namespace Conformance.Json

open Text

variable {rest : List Char}

/-! ## White space -/

theorem skipSpace_of_head {c : Char} (hc : isSpace c = false) (cs : List Char) :
    skipSpace (c :: cs) = c :: cs := by
  simp [skipSpace, hc]

@[simp] theorem skipSpace_newline (level : Nat) (cs : List Char) :
    skipSpace (newline level ++ cs) = skipSpace cs := by
  have hspace : ∀ c ∈ newline level, isSpace c = true := by
    intro c hc
    rcases List.mem_cons.mp hc with rfl | hc
    · rfl
    · rw [List.eq_of_mem_replicate hc]
      rfl
  exact List.dropWhile_append_of_pos hspace

/-! ## Strings -/

theorem hexValue?_hexDigit : ∀ {n : Nat}, n < 16 → hexValue? (hexDigit n) = some n := by
  decide

/-- The escape by number of a control character. -/
theorem readUnit_of_lt {n : Nat} (hn : n < 0x20) :
    readUnit ('0' :: '0' :: hexDigit (n / 16) :: hexDigit (n % 16) :: rest) = some (n, rest) := by
  have hzero : hexValue? '0' = some 0 := rfl
  have hhigh : hexValue? (hexDigit (n / 16)) = some (n / 16) := hexValue?_hexDigit (by omega)
  have hlow : hexValue? (hexDigit (n % 16)) = some (n % 16) := hexValue?_hexDigit (by omega)
  have hvalue : ((0 * 16 + 0) * 16 + n / 16) * 16 + n % 16 = n := by omega
  simp only [readUnit, hzero, hhigh, hlow, Option.bind_eq_bind, Option.bind_some, hvalue]

theorem readUnicode_of_lt {n : Nat} (hn : n < 0x20) :
    readUnicode ('0' :: '0' :: hexDigit (n / 16) :: hexDigit (n % 16) :: rest) =
      some (Char.ofNat n, rest) := by
  have hplane : n < 0xD800 ∨ 0xDFFF < n := .inl (by omega)
  simp [readUnicode, readUnit_of_lt hn, hplane]

/-- A character that is not written with a backslash stands for itself. -/
theorem readChar_of_printable {c : Char} (hbackslash : c ≠ '\\') (hc : 0x20 ≤ c.toNat) :
    readChar (c :: rest) = some (c, rest) := by
  unfold readChar
  split
  · contradiction
  · next heq => exact absurd (List.cons.inj heq).1 hbackslash
  · next heq => exact absurd (List.cons.inj heq).1 hbackslash
  · next heq => exact absurd (List.cons.inj heq).1 hbackslash
  · next heq =>
    obtain ⟨rfl, rfl⟩ := List.cons.inj heq
    rw [if_neg (Nat.not_lt.mpr hc)]

/-- **A written character is read back.** -/
theorem readChar_escapeChar (c : Char) : readChar (escapeChar c ++ rest) = some (c, rest) := by
  unfold escapeChar
  split
  -- the short escapes
  · rfl
  · rfl
  · rfl
  · rfl
  · rfl
  · rfl
  · rfl
  · next hbackslash _ _ _ _ _ =>
    split
    · next hcontrol =>
      refine (readUnicode_of_lt hcontrol).trans ?_
      rw [Char.ofNat_toNat]
      rfl
    · next hprintable => exact readChar_of_printable hbackslash (Nat.le_of_not_lt hprintable)

/-- A written character begins with a backslash, or it is itself and no quote. -/
theorem escapeChar_cases (c : Char) :
    (∃ cs, escapeChar c = '\\' :: cs) ∨ c ≠ '"' ∧ escapeChar c = [c] := by
  unfold escapeChar
  split
  · exact .inl ⟨_, rfl⟩
  · exact .inl ⟨_, rfl⟩
  · exact .inl ⟨_, rfl⟩
  · exact .inl ⟨_, rfl⟩
  · exact .inl ⟨_, rfl⟩
  · exact .inl ⟨_, rfl⟩
  · exact .inl ⟨_, rfl⟩
  · next hquote _ _ _ _ _ _ =>
    split
    · exact .inl ⟨_, rfl⟩
    · exact .inr ⟨hquote, rfl⟩

/-- So it is not taken for the end of its string. -/
theorem escapeChar_append_ne_quote (c : Char) (cs rest : List Char) :
    escapeChar c ++ cs ≠ '"' :: rest := by
  rcases escapeChar_cases c with ⟨tail, hc⟩ | ⟨hquote, hc⟩
  · simp [hc]
  · simp [hc, hquote]

/-- A written character is read before the rest of its string. -/
theorem readChars_escapeChar (c : Char) (fuel : Nat) (cs : List Char) :
    readChars (fuel + 1) (escapeChar c ++ cs) =
      (readChars fuel cs).map fun (s, rest) => (c :: s, rest) := by
  rw [readChars, readChar_escapeChar]
  -- what is left is that the character does not end the string
  · simp only [Option.bind_eq_bind, Option.bind_some]
    cases readChars fuel cs <;> rfl
  · exact escapeChar_append_ne_quote c cs

theorem readChars_flatMap_escapeChar (s : List Char) {fuel : Nat} (h : s.length < fuel) :
    readChars fuel (s.flatMap escapeChar ++ '"' :: rest) = some (s, rest) := by
  induction s generalizing fuel with
  | nil =>
    obtain ⟨fuel, rfl⟩ := Nat.exists_eq_add_one_of_ne_zero (Nat.ne_of_gt h)
    rfl
  | cons c s ih =>
    obtain ⟨fuel, rfl⟩ := Nat.exists_eq_add_one_of_ne_zero (Nat.ne_of_gt (Nat.zero_lt_of_lt h))
    rw [List.flatMap_cons, List.append_assoc, readChars_escapeChar,
      ih (Nat.lt_of_succ_lt_succ h)]
    rfl

theorem length_le_length_flatMap_escapeChar (s : List Char) :
    s.length ≤ (s.flatMap escapeChar).length := by
  induction s with
  | nil => exact Nat.le_refl 0
  | cons c s ih =>
    have hpos : 0 < (escapeChar c).length := by
      rcases escapeChar_cases c with ⟨tail, hc⟩ | ⟨-, hc⟩ <;> simp [hc]
    simp only [List.flatMap_cons, List.length_cons, List.length_append]
    omega

/-- **A written string is read back.** -/
theorem readString_flatMap_escapeChar (s : String) :
    readString (s.toList.flatMap escapeChar ++ '"' :: rest) = some (s, rest) := by
  have hlength := length_le_length_flatMap_escapeChar s.toList
  rw [readString, readChars_flatMap_escapeChar]
  · simp
  · simp only [List.length_append, List.length_cons]
    omega

/-! ## Numbers -/

/-- The text does not go on with a number. -/
def EndsNumber (rest : List Char) : Prop :=
  ∀ c ∈ rest.head?, isAsciiDigit c = false ∧ c ≠ '.' ∧ c ≠ 'e' ∧ c ≠ 'E'

theorem EndsNumber.readDigits_append (h : EndsNumber rest) {digits : List Char}
    (hdigits : ∀ d ∈ digits, isAsciiDigit d = true) :
    readDigits (digits ++ rest) = (digits, rest) := by
  have hnone : rest.takeWhile isAsciiDigit = [] ∧ rest.dropWhile isAsciiDigit = rest := by
    cases rest with
    | nil => exact ⟨rfl, rfl⟩
    | cons c rest =>
      have hc := (h c rfl).1
      simp [hc]
  rw [readDigits, List.takeWhile_append_of_pos hdigits, List.dropWhile_append_of_pos hdigits,
    hnone.1, hnone.2, List.append_nil]

theorem EndsNumber.readFraction (h : EndsNumber rest) : readFraction rest = some ([], rest) := by
  unfold Json.readFraction
  split
  · exact absurd rfl (h '.' rfl).2.1
  · rfl

theorem EndsNumber.readExponent (h : EndsNumber rest) : readExponent rest = some ([], rest) := by
  unfold Json.readExponent
  split
  · rfl
  · next e cs =>
    obtain ⟨-, -, hlower, hupper⟩ := h e rfl
    rw [if_neg (not_or.mpr ⟨hlower, hupper⟩)]

/-- A number is written with a digit at its start. -/
theorem exists_toDigits_eq_cons (n : Nat) :
    ∃ d ds, Nat.toDigits 10 n = d :: ds ∧ isAsciiDigit d = true := by
  obtain ⟨d, ds, h⟩ := List.exists_cons_of_ne_nil (Nat.toDigits_ne_nil (n := n) (b := 10))
  exact ⟨d, ds, h, Nat.isDigit_of_mem_toDigits (by decide) (by decide) (h ▸ List.mem_cons_self)⟩

/-- Only zero is written with a zero at its start. -/
theorem eq_zero_of_head?_toDigits {n : Nat} (h : (Nat.toDigits 10 n).head? = some '0') :
    n = 0 := by
  induction n using Nat.strongRecOn with
  | ind n ih =>
    rw [Nat.toDigits_eq_if (by decide)] at h
    split at h
    · simpa using h
    · next hn =>
      -- the first digit is that of the number without its last digit
      rw [List.head?_append_of_ne_nil _ Nat.toDigits_ne_nil] at h
      have := ih (n / 10) (by omega) h
      omega

theorem EndsNumber.readUnsigned_toDigits (h : EndsNumber rest) (negative : Bool) (n : Nat)
    (hn : negative = true → n ≠ 0) :
    readUnsigned negative (Nat.toDigits 10 n ++ rest) =
      some (integer (if negative = true then -(n : Int) else n), rest) := by
  have hzero : (Nat.toDigits 10 n).head? = some '0' → n = 0 := eq_zero_of_head?_toDigits
  have hstart : ¬ (Nat.toDigits 10 n = [] ∨
      (Nat.toDigits 10 n).head? = some '0' ∧ Nat.toDigits 10 n ≠ ['0']) := by
    rintro (hnil | ⟨hhead, hmore⟩)
    · exact Nat.toDigits_ne_nil hnil
    · exact hmore (by rw [hzero hhead, Nat.toDigits_zero])
  -- a zero has no sign, or it would not be read as an integer
  have hsign : ¬ (negative = true ∧ Nat.toDigits 10 n = ['0']) := by
    rintro ⟨hnegative, hdigit⟩
    exact hn hnegative (hzero (by rw [hdigit]; rfl))
  have hdigits : ∀ d ∈ Nat.toDigits 10 n, isAsciiDigit d = true :=
    fun _ hd => Nat.isDigit_of_mem_toDigits (by decide) (by decide) hd
  rw [readUnsigned, h.readDigits_append hdigits]
  dsimp only
  rw [if_neg hstart]
  simp [hsign, h.readFraction, h.readExponent, Nat.ofDigitChars_toDigits]

/-- **A written integer is read back.** -/
theorem readNumber_toString (n : Int) (h : EndsNumber rest) :
    readNumber ((toString n).toList ++ rest) = some (integer n, rest) := by
  rw [Int.toString_eq_repr, Int.repr_eq_if]
  split
  · next hn =>
    have hread := h.readUnsigned_toDigits false n.toNat nofun
    rw [if_neg Bool.false_ne_true, Int.toNat_of_nonneg hn] at hread
    rw [Nat.toList_repr, ← hread]
    -- there is no sign where there is a digit
    unfold readNumber
    split
    · next cs heq =>
      obtain ⟨d, ds, hcons, hd⟩ := exists_toDigits_eq_cons n.toNat
      rw [hcons] at heq
      obtain ⟨rfl, -⟩ := List.cons.inj heq
      contradiction
    · rfl
  · next hn =>
    have hread := h.readUnsigned_toDigits true (-n).toNat fun _ => by omega
    rw [if_pos rfl, Int.toNat_of_nonneg (by omega), Int.neg_neg] at hread
    rw [String.toList_append, Nat.toList_repr]
    exact hread

/-- An integer is written with a minus sign or a digit at its start. -/
theorem exists_toString_eq_cons (n : Int) :
    ∃ c cs, (toString n).toList = c :: cs ∧ (c = '-' ∨ isAsciiDigit c = true) := by
  rw [Int.toString_eq_repr, Int.repr_eq_if]
  split
  · obtain ⟨d, ds, hcons, hd⟩ := exists_toDigits_eq_cons n.toNat
    rw [Nat.toList_repr]
    exact ⟨d, ds, hcons, .inr hd⟩
  · rw [String.toList_append]
    exact ⟨'-', _, rfl, .inl rfl⟩

/-! ## Lists -/

theorem endsNumber_cons {c : Char} (h : isAsciiDigit c = false ∧ c ≠ '.' ∧ c ≠ 'e' ∧ c ≠ 'E') :
    EndsNumber (c :: rest) := by
  rintro _ ⟨⟩
  exact h

theorem endsNumber_newline (level : Nat) : EndsNumber (newline level ++ rest) :=
  endsNumber_cons (by decide)

section Lists

variable {α : Type} {read : List Char → Option (α × List Char)} {write : α → List Char}
  {close : Char} {level outer fuel : Nat}

/-- Parts in lines of their own, each but the first behind a comma. -/
def writeFurther (write : α → List Char) (level : Nat) (as : List α) : List Char :=
  as.flatMap fun a => ',' :: newline level ++ write a

theorem endsNumber_writeFurther (as : List α) :
    EndsNumber (writeFurther write level as ++ (newline outer ++ rest)) := by
  cases as with
  | nil => exact endsNumber_newline outer
  | cons a as => exact endsNumber_cons (by decide)

/-- **Parts in lines of their own are read back**, if each of them is. -/
theorem readParts_written (hclose : isSpace close = false) (hcomma : close ≠ ',') {a : α}
    {as : List α} (hread : ∀ b ∈ a :: as, ∀ rest, EndsNumber rest →
      read (newline level ++ (write b ++ rest)) = some (b, rest)) (hfuel : as.length < fuel) :
    readParts read close fuel (newline level ++ (write a ++
      (writeFurther write level as ++ (newline outer ++ close :: rest)))) =
        some (a :: as, rest) := by
  -- behind a part there is the comma before the next one, or the line of the closing character
  induction as generalizing a fuel with
  | nil =>
    obtain ⟨fuel, rfl⟩ := Nat.exists_eq_add_one_of_ne_zero (Nat.ne_of_gt hfuel)
    rw [readParts, hread a List.mem_cons_self _ (endsNumber_writeFurther [])]
    simp [writeFurther, skipSpace_of_head hclose]
  | cons b as ih =>
    obtain ⟨fuel, rfl⟩ := Nat.exists_eq_add_one_of_ne_zero (Nat.ne_of_gt (Nat.zero_lt_of_lt hfuel))
    have hrest := ih (fun c hc => hread c (List.mem_cons_of_mem a hc))
      (Nat.lt_of_succ_lt_succ hfuel)
    rw [readParts, hread a List.mem_cons_self _ (endsNumber_writeFurther (b :: as))]
    simp only [writeFurther, List.flatMap_cons, List.cons_append, List.append_assoc] at hrest ⊢
    rw [Option.bind_eq_bind, Option.bind_some]
    dsimp only
    rw [skipSpace_of_head (by decide)]
    simp [hcomma.symm, hrest]

/-- The parts between an opening and a closing character are read back. -/
theorem readAll_written (hclose : isSpace close = false) (hcomma : close ≠ ',') {a : α}
    {as : List α} (hread : ∀ b ∈ a :: as, ∀ rest, EndsNumber rest →
      read (newline level ++ (write b ++ rest)) = some (b, rest)) (hfuel : as.length < fuel)
    (hstart : ∃ c cs, write a = c :: cs ∧ isSpace c = false ∧ c ≠ close) :
    readAll read close fuel (newline level ++ (write a ++
      (writeFurther write level as ++ (newline outer ++ close :: rest)))) =
        some (a :: as, rest) := by
  obtain ⟨c, cs, hwrite, hspace, hne⟩ := hstart
  rw [readAll, skipSpace_newline, hwrite, List.cons_append, skipSpace_of_head hspace]
  dsimp only
  rw [if_neg hne, ← List.cons_append, ← hwrite]
  exact readParts_written hclose hcomma hread hfuel

theorem length_le_length_writeFurther (write : α → List Char) (level : Nat) (as : List α) :
    as.length ≤ (writeFurther write level as).length := by
  induction as with
  | nil => exact Nat.le_refl 0
  | cons a as ih =>
    simp only [writeFurther, List.flatMap_cons, List.length_append, List.length_cons] at ih ⊢
    omega

theorem length_write_le (write : α → List Char) (level : Nat) {a b : α} {as : List α}
    (h : b ∈ a :: as) :
    (write b).length ≤ (write a).length + (writeFurther write level as).length := by
  induction as generalizing a with
  | nil =>
    rw [List.mem_singleton.mp h]
    exact Nat.le_add_right _ _
  | cons c as ih =>
    simp only [writeFurther, List.flatMap_cons, List.length_append, List.length_cons] at ih ⊢
    rcases List.mem_cons.mp h with rfl | hmem
    · omega
    · have := ih hmem
      omega

end Lists

/-! ## Values -/

/-- **A value whose numbers are integers.** -/
inductive Integral : Json → Prop
  | null : Integral null
  | boolean (b : Bool) : Integral (boolean b)
  | integer (n : Int) : Integral (integer n)
  | string (s : String) : Integral (string s)
  | array {items : List Json} (h : ∀ item ∈ items, Integral item) : Integral (array items)
  | object {members : List (String × Json)} (h : ∀ m ∈ members, Integral m.2) :
    Integral (object members)

attribute [simp] Integral.null Integral.boolean Integral.integer Integral.string

@[simp] theorem integral_array_iff {items : List Json} :
    Integral (array items) ↔ ∀ item ∈ items, Integral item := by
  constructor
  · rintro ⟨⟩
    assumption
  · exact .array

@[simp] theorem integral_object_iff {members : List (String × Json)} :
    Integral (object members) ↔ ∀ m ∈ members, Integral m.2 := by
  constructor
  · rintro ⟨⟩
    assumption
  · exact .object

/-- A member of an object as it is written. -/
def writeMember (level : Nat) (m : String × Json) : List Char :=
  quoted m.1 ++ ':' :: ' ' :: prettyAt level m.2

theorem prettyItems_eq (level : Nat) (items : List Json) :
    prettyItems level items = writeFurther (prettyAt level) level items := by
  induction items with
  | nil => rfl
  | cons item items ih =>
    rw [prettyItems, ih]
    simp [writeFurther]

theorem prettyMembers_eq (level : Nat) (members : List (String × Json)) :
    prettyMembers level members = writeFurther (writeMember level) level members := by
  induction members with
  | nil => rfl
  | cons m members ih =>
    rw [prettyMembers, ih]
    simp [writeFurther, writeMember]

theorem prettyAt_array (level : Nat) (item : Json) (items : List Json) :
    prettyAt level (array (item :: items)) =
      '[' :: (newline (level + 1) ++ (prettyAt (level + 1) item ++
        (writeFurther (prettyAt (level + 1)) (level + 1) items ++ (newline level ++ [']'])))) := by
  rw [prettyAt, prettyItems_eq]
  simp only [List.cons_append, List.append_assoc]

theorem prettyAt_object (level : Nat) (m : String × Json) (members : List (String × Json)) :
    prettyAt level (object (m :: members)) =
      '\x7b' :: (newline (level + 1) ++ (writeMember (level + 1) m ++
        (writeFurther (writeMember (level + 1)) (level + 1) members ++
          (newline level ++ ['\x7d'])))) := by
  rw [prettyAt, prettyMembers_eq]
  simp [writeMember]

theorem readValue_congr {fuel : Nat} {cs cs' : List Char} (h : skipSpace cs = skipSpace cs') :
    readValue fuel cs = readValue fuel cs' := by
  cases fuel with
  | zero => rfl
  | succ fuel => rw [readValue, readValue, h]

theorem readValue_quote (fuel : Nat) (cs : List Char) :
    readValue (fuel + 1) ('"' :: cs) = (readString cs).map fun (s, rest) => (string s, rest) := rfl

theorem readValue_bracket (fuel : Nat) (cs : List Char) :
    readValue (fuel + 1) ('[' :: cs) =
      (readAll (readValue fuel) ']' fuel cs).map fun (items, rest) => (array items, rest) := rfl

theorem readValue_brace (fuel : Nat) (cs : List Char) :
    readValue (fuel + 1) ('\x7b' :: cs) =
      (readAll (readMember (readValue fuel)) '\x7d' fuel cs).map fun (members, rest) =>
        (object members, rest) := rfl

theorem isSpace_of_number {c : Char} (hc : c = '-' ∨ isAsciiDigit c = true) : isSpace c = false := by
  rw [Bool.eq_false_iff]
  intro hspace
  simp only [isSpace, Bool.or_eq_true, beq_iff_eq] at hspace
  rcases hspace with ((rfl | rfl) | rfl) | rfl <;> exact absurd hc (by decide)

/-- A number is told by its first character. -/
theorem readValue_of_number {c : Char} (hc : c = '-' ∨ isAsciiDigit c = true) (fuel : Nat)
    (cs : List Char) : readValue (fuel + 1) (c :: cs) = readNumber (c :: cs) := by
  have hne : ∀ {d : Char} {ds : List Char}, ¬ (d = '-' ∨ isAsciiDigit d = true) →
      c :: cs ≠ d :: ds := by
    rintro d ds hd heq
    exact hd ((List.cons.inj heq).1 ▸ hc)
  rw [readValue, skipSpace_of_head (isSpace_of_number hc)]
  split
  · next heq => exact absurd heq (hne (by decide))
  · next heq => exact absurd heq (hne (by decide))
  · next heq => exact absurd heq (hne (by decide))
  · next heq => exact absurd heq (hne (by decide))
  · next heq => exact absurd heq (hne (by decide))
  · next heq => exact absurd heq (hne (by decide))
  · rfl

/-- The text of a value begins with a character of its own. -/
theorem exists_prettyAt_eq_cons {v : Json} (hv : Integral v) (level : Nat) :
    ∃ c cs, prettyAt level v = c :: cs ∧ isSpace c = false ∧ c ≠ ']' := by
  cases hv with
  | null => exact ⟨'n', _, rfl, by decide⟩
  | boolean b =>
    cases b with
    | false => exact ⟨'f', _, rfl, by decide⟩
    | true => exact ⟨'t', _, rfl, by decide⟩
  | integer n =>
    obtain ⟨c, cs, hcons, hc⟩ := exists_toString_eq_cons n
    refine ⟨c, cs, hcons, isSpace_of_number hc, ?_⟩
    rintro rfl
    exact absurd hc (by decide)
  | string s => exact ⟨'"', _, rfl, by decide⟩
  | @array items _ =>
    cases items with
    | nil => exact ⟨'[', _, rfl, by decide⟩
    | cons item items => exact ⟨'[', _, prettyAt_array level item items, by decide⟩
  | @object members _ =>
    cases members with
    | nil => exact ⟨'\x7b', _, rfl, by decide⟩
    | cons m members => exact ⟨'\x7b', _, prettyAt_object level m members, by decide⟩

/-- A written member is read back, if its value is. -/
theorem readMember_written {read : List Char → Option (Json × List Char)} {m : String × Json}
    {level outer : Nat} (hread : read (' ' :: (prettyAt level m.2 ++ rest)) = some (m.2, rest)) :
    readMember read (newline outer ++ (writeMember level m ++ rest)) = some (m, rest) := by
  have htext : writeMember level m ++ rest = '"' ::
      (m.1.toList.flatMap escapeChar ++ '"' :: ':' :: ' ' :: (prettyAt level m.2 ++ rest)) := by
    simp [writeMember, quoted]
  rw [readMember, skipSpace_newline, htext]
  -- behind the quote the name is read, and behind the colon the value
  change (readString _).bind _ = _
  rw [readString_flatMap_escapeChar, Option.bind_some]
  change (read _).bind _ = _
  rw [hread]
  rfl

/-- **A written value is read back**, before anything that does not go on with a number. -/
theorem readValue_prettyAt {fuel : Nat} {v : Json} (hv : Integral v) {level : Nat}
    (hfuel : (prettyAt level v).length ≤ fuel) (hrest : EndsNumber rest) :
    readValue fuel (prettyAt level v ++ rest) = some (v, rest) := by
  -- the parts of a value have shorter texts, which fewer steps suffice for
  induction fuel generalizing v level rest with
  | zero =>
    obtain ⟨c, cs, hcons, -⟩ := exists_prettyAt_eq_cons hv level
    simp [hcons] at hfuel
  | succ fuel ih =>
    cases hv with
    | null => rfl
    | boolean b => cases b <;> rfl
    | integer n =>
      obtain ⟨c, cs, hcons, hc⟩ := exists_toString_eq_cons n
      have hread := readNumber_toString n hrest
      rw [hcons, List.cons_append] at hread
      rw [prettyAt, hcons, List.cons_append, readValue_of_number hc, hread]
    | string s =>
      have htext : prettyAt level (.string s) ++ rest =
          '"' :: (s.toList.flatMap escapeChar ++ '"' :: rest) := by
        simp [prettyAt, quoted]
      rw [htext, readValue_quote, readString_flatMap_escapeChar]
      rfl
    | @array items h =>
      cases items with
      | nil => rfl
      | cons item items =>
        rw [prettyAt_array] at hfuel ⊢
        simp only [List.length_cons, List.length_append] at hfuel
        have hcount := length_le_length_writeFurther (prettyAt (level + 1)) (level + 1) items
        have hread : ∀ b ∈ item :: items, ∀ rest, EndsNumber rest →
            readValue fuel (newline (level + 1) ++ (prettyAt (level + 1) b ++ rest)) =
              some (b, rest) := by
          intro b hb rest hrest
          have hlength := length_write_le (prettyAt (level + 1)) (level + 1) hb
          rw [readValue_congr (skipSpace_newline _ _)]
          exact ih (h b hb) (by omega) hrest
        simp only [List.cons_append, List.append_assoc, List.nil_append]
        rw [readValue_bracket, readAll_written rfl (by decide) hread (by omega)
          (exists_prettyAt_eq_cons (h item List.mem_cons_self) _)]
        rfl
    | @object members h =>
      cases members with
      | nil => rfl
      | cons m members =>
        rw [prettyAt_object] at hfuel ⊢
        simp only [List.length_cons, List.length_append] at hfuel
        have hcount := length_le_length_writeFurther (writeMember (level + 1)) (level + 1) members
        have hread : ∀ b ∈ m :: members, ∀ rest, EndsNumber rest →
            readMember (readValue fuel)
              (newline (level + 1) ++ (writeMember (level + 1) b ++ rest)) = some (b, rest) := by
          intro b hb rest hrest
          have hlength := length_write_le (writeMember (level + 1)) (level + 1) hb
          have hvalue : (prettyAt (level + 1) b.2).length ≤
              (writeMember (level + 1) b).length := by
            simp only [writeMember, List.length_append, List.length_cons]
            omega
          have hblank : skipSpace (' ' :: (prettyAt (level + 1) b.2 ++ rest)) =
              skipSpace (prettyAt (level + 1) b.2 ++ rest) := rfl
          refine readMember_written ?_
          rw [readValue_congr hblank]
          exact ih (h b hb) (by omega) hrest
        simp only [List.cons_append, List.append_assoc, List.nil_append]
        rw [readValue_brace,
          readAll_written rfl (by decide) hread (by omega) ⟨'"', _, rfl, by decide⟩]
        rfl

theorem endsNumber_of_skipSpace (h : skipSpace rest = []) : EndsNumber rest := by
  cases rest with
  | nil => exact nofun
  | cons c rest =>
    have hspace : isSpace c = true := by
      by_contra hc
      rw [skipSpace_of_head (Bool.eq_false_iff.mpr hc)] at h
      contradiction
    simp only [isSpace, Bool.or_eq_true, beq_iff_eq] at hspace
    rcases hspace with ((rfl | rfl) | rfl) | rfl <;> exact endsNumber_cons (by decide)

/-- **A written text is read back**, also with white space behind it. -/
theorem read?_pretty_append {v : Json} (hv : Integral v) {after : String}
    (hafter : skipSpace after.toList = []) : read? (v.pretty ++ after) = some v := by
  have htext : (v.pretty ++ after).toList = prettyAt 0 v ++ after.toList := by
    simp [pretty]
  rw [read?, htext, readValue_prettyAt hv (by simp only [List.length_append]; omega)
    (endsNumber_of_skipSpace hafter)]
  simp [hafter]

end Conformance.Json
