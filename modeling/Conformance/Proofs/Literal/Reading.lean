import Conformance.Proofs.Literal.Token

/-!
# Reading literals

The reader accepts exactly the grammar of literals and returns the literal that the text denotes.
One half is an induction on the fuel and holds for any amount of it; for the other half it is shown
how much fuel a literal takes, and that the length of the text provides it.

## Main definitions

* `Sound`, `SoundItems`: a reader returns only what is denoted by what it consumes

## Main results

* `sound_read`: the readers are sound
* `readValue_of_denotes`: what is denoted is read, with enough fuel
* `parse_eq_ok_iff`: the literal of a text is the one that it denotes between blanks
-/

namespace Conformance.Literal

open Text

variable {w cs rest : List Char} {c : Char} {v : Literal}

/-! ## Blanks -/

theorem Blanks.append {w' : List Char} (hw : Blanks w) (hw' : Blanks w') : Blanks (w ++ w') := by
  intro c hc
  rcases List.mem_append.mp hc with hc | hc
  · exact hw c hc
  · exact hw' c hc

theorem trimStart_blanks_append (hw : Blanks w) (s : List Char) :
    trimStart (w ++ s) = trimStart s :=
  List.dropWhile_append_of_pos hw

theorem trimStart_cons (hc : isBlank c = false) (s : List Char) : trimStart (c :: s) = c :: s :=
  List.dropWhile_cons_of_neg (by simp [hc])

theorem trimStart_of_blanks (hw : Blanks w) : trimStart w = [] := by
  simpa using trimStart_blanks_append hw []

theorem exists_blanks (s : List Char) : ∃ w, Blanks w ∧ s = w ++ trimStart s := by
  refine ⟨s.takeWhile isBlank, fun c hc => ?_, List.takeWhile_append_dropWhile.symm⟩
  exact List.all_eq_true.mp List.all_takeWhile c hc

theorem exists_blanks_of_trimStart {s t : List Char} (h : trimStart s = t) :
    ∃ w, Blanks w ∧ s = w ++ t :=
  h ▸ exists_blanks s

theorem continuesWord_of_blank (hc : isBlank c = true) : continuesWord c = false := by
  have hall : ∀ n ∈ blankRanges.flatMap (fun r => List.range' r.1 (r.2 + 1 - r.1)),
      continuesWord (Char.ofNat n) = false := by
    decide +kernel
  -- the blanks are few, so it remains to find the character among them
  obtain ⟨r, hr, hin⟩ := List.any_eq_true.mp hc
  obtain ⟨hlo, hhi⟩ := Bool.and_eq_true_iff.mp hin
  have hmem : c.toNat ∈ blankRanges.flatMap (fun r => List.range' r.1 (r.2 + 1 - r.1)) := by
    refine List.mem_flatMap.mpr ⟨r, hr, List.mem_range'_1.mpr ?_⟩
    have := Nat.le_of_ble_eq_true hlo
    have := Nat.le_of_ble_eq_true hhi
    omega
  simpa using hall _ hmem

theorem endsWord_cons (hc : continuesWord c = false) (s : List Char) : EndsWord (c :: s) := by
  intro d hd
  obtain rfl : c = d := Option.some.inj hd
  exact hc

theorem endsWord_blanks_append (hw : Blanks w) (h : EndsWord rest) : EndsWord (w ++ rest) := by
  cases w with
  | nil => exact h
  | cons c w => exact endsWord_cons (continuesWord_of_blank (hw c (List.mem_cons_self))) _

theorem endsWord_of_blanks (hw : Blanks w) : EndsWord w := by
  simpa using endsWord_blanks_append hw (fun c hc => absurd hc (by simp) : EndsWord [])

/-! ## What is read is denoted -/

/-- The reader returns only what is denoted by what it consumes. -/
def Sound (read : List Char → Reading Literal) : Prop :=
  ∀ cs v rest, read cs = .ok (v, rest) →
    ∃ w core, Blanks w ∧ Denotes core v ∧ cs = w ++ (core ++ rest)

/-- The reader of items returns only lists that are continued by what it consumes. -/
def SoundItems (read : List String → List Char → Reading Literal) : Prop :=
  ∀ items cs v rest, read items cs = .ok (v, rest) →
    ∃ w text tail item more, Blanks w ∧ StringText text item ∧ ListTail tail more ∧
      cs = w ++ (text ++ (tail ++ rest)) ∧ v = .list (items ++ item :: more)

theorem stringText_of_denotes {text : List Char} {s : String} (h : Denotes text (.string s)) :
    StringText text s := by
  cases h
  assumption

theorem denotes_of_compile {source start : List Char} {rest' : List Char}
    (h : compile source start rest = .ok (v, rest')) :
    ∃ p : Pattern, p.source = String.ofList source ∧ v = .pattern p ∧ rest' = rest := by
  unfold compile at h
  cases hp : Pattern.compile (String.ofList source) with
  | error reason => simp [hp] at h
  | ok p =>
    simp only [hp] at h
    cases h
    exact ⟨p, Pattern.source_of_compile hp, rfl, rfl⟩

theorem isQuote_iff : isQuote c = true ↔ c = '\'' ∨ c = '"' := by
  simp [isQuote]

theorem ne_backslash_of_quote (hq : c = '\'' ∨ c = '"') : c ≠ '\\' := by
  rcases hq with rfl | rfl
  all_goals decide

theorem quoted_of_asString {raw : Bool} (hq : c = '\'' ∨ c = '"')
    (h : asString (readQuoted raw c cs) = .ok (v, rest)) :
    ∃ text value, Quoted raw c text value ∧ v = .string (String.ofList value) ∧
      cs = text ++ c :: rest := by
  unfold asString at h
  split at h
  · next value behind hread =>
    cases h
    obtain ⟨text, htext, hcs⟩ := (readQuoted_eq_ok_iff (ne_backslash_of_quote hq)).mp hread
    exact ⟨text, value, htext, rfl, hcs⟩
  · cases h

/-- A word is a boolean or the name of a pattern, and a value within it is read soundly. -/
theorem sound_readWord {fuel : Nat} (ih : Sound (readValue fuel)) : Sound (readWord (fuel + 1)) := by
  intro cs v rest h
  have hcs : cs = cs.takeWhile continuesWord ++ cs.dropWhile continuesWord :=
    List.takeWhile_append_dropWhile.symm
  unfold readWord at h
  dsimp only at h
  split at h
  · next hword =>
    cases h
    refine ⟨[], cs.takeWhile continuesWord, nofun, .boolean ?_, hcs⟩
    rcases hword with hword | hword <;> simp [booleans, hword]
  split at h
  · next hword =>
    cases h
    refine ⟨[], cs.takeWhile continuesWord, nofun, .boolean ?_, hcs⟩
    rcases hword with hword | hword <;> simp [booleans, hword]
  split at h
  · next hword =>
    rw [hword] at hcs
    split at h
    · next inner hopen =>
      split at h
      · cases h
      · next source behind hread =>
        split at h
        · next hclose =>
          obtain ⟨p, hp, rfl, rfl⟩ := denotes_of_compile h
          obtain ⟨w, hw, hbefore⟩ := exists_blanks_of_trimStart hopen
          obtain ⟨w', hw', hinner⟩ := exists_blanks inner
          obtain ⟨u, text, hu, htext, hstart⟩ := ih _ _ _ hread
          obtain ⟨w'', hw'', hbehind⟩ := exists_blanks_of_trimStart hclose
          -- only a string gets this far, so that nothing else can be nested
          have hsource : StringText text p.source := by
            rw [hp, String.ofList_toList]
            exact stringText_of_denotes htext
          refine ⟨[], _, nofun, .compiled hw (hw'.append hu) hsource hw'', ?_⟩
          rw [hcs, hbefore, hinner, hstart, hbehind]
          simp
        · cases h
      · cases h
    · cases h
  · cases h

/-- A list is read item by item. -/
theorem soundItems_readItems {fuel : Nat} (ih : Sound (readValue fuel))
    (ihItems : SoundItems (readItems fuel)) : SoundItems (readItems (fuel + 1)) := by
  intro items cs v rest h
  unfold readItems at h
  dsimp only at h
  split at h
  · cases h
  · next item behind hread =>
    obtain ⟨w, hw, hcs⟩ := exists_blanks cs
    obtain ⟨u, text, hu, htext, hstart⟩ := ih _ _ _ hread
    have hitem := stringText_of_denotes htext
    rw [hstart, ← List.append_assoc] at hcs
    split at h
    · next next hcomma =>
      obtain ⟨w', hw', hbehind⟩ := exists_blanks_of_trimStart hcomma
      obtain ⟨w'', hw'', hnext⟩ := exists_blanks next
      split at h
      · next hclose =>
        cases h
        refine ⟨_, text, _, item, [], hw.append hu, hitem, .trailing hw' hw'', ?_, rfl⟩
        rw [hcs, hbehind, hnext, hclose]
        simp
      · -- the items behind the comma are the tail of this one
        obtain ⟨u', text', tail, item', more, hu', hitem', htail, hmore, rfl⟩ := ihItems _ _ _ _ h
        refine ⟨_, text, _, item, item' :: more, hw.append hu, hitem,
          .next hw' (hw''.append hu') hitem' htail, ?_, by simp⟩
        rw [hcs, hbehind, hnext, hmore]
        simp
    · next hclose =>
      cases h
      obtain ⟨w', hw', hbehind⟩ := exists_blanks_of_trimStart hclose
      refine ⟨_, text, _, item, [], hw.append hu, hitem, .close hw', ?_, rfl⟩
      rw [hcs, hbehind]
      simp
    · cases h
  · cases h

/-- A value is told by its first character. -/
theorem sound_readValue {fuel : Nat} (ihWord : Sound (readWord fuel))
    (ihItems : SoundItems (readItems fuel)) : Sound (readValue (fuel + 1)) := by
  intro cs v rest h
  obtain ⟨w, hw, hcs⟩ := exists_blanks cs
  unfold readValue at h
  split at h
  · cases h
  · next inner hopen =>
    rw [hopen] at hcs
    split at h
    · next hclose =>
      cases h
      obtain ⟨w', hw', hinner⟩ := exists_blanks_of_trimStart hclose
      refine ⟨w, _, hw, .emptyList hw', ?_⟩
      rw [hcs, hinner]
      simp
    · obtain ⟨w', hw', hinner⟩ := exists_blanks inner
      obtain ⟨u, text, tail, item, more, hu, hitem, htail, hstart, rfl⟩ := ihItems _ _ _ _ h
      refine ⟨w, _, hw, .list (hw'.append hu) hitem htail, ?_⟩
      rw [hcs, hinner, hstart]
      simp
  · next inner hopen =>
    rw [hopen] at hcs
    split at h
    · next source behind hread =>
      obtain ⟨text, htext, rfl⟩ := readSlashed_eq_ok_iff.mp hread
      obtain ⟨p, hp, rfl, rfl⟩ := denotes_of_compile h
      exact ⟨w, _, hw, .slashed htext hp, by simp [hcs]⟩
    · cases h
  · next c inner _ _ hopen =>
    rw [hopen] at hcs
    have hword : readWord fuel (c :: inner) = .ok (v, rest) →
        ∃ w core, Blanks w ∧ Denotes core v ∧ cs = w ++ (core ++ rest) := by
      intro h
      obtain ⟨u, core, hu, hcore, hinner⟩ := ihWord _ _ _ h
      exact ⟨w ++ u, core, hw.append hu, hcore, by rw [hcs, hinner, List.append_assoc]⟩
    split at h
    · next hquote =>
      have hq := isQuote_iff.mp hquote
      obtain ⟨text, value, htext, rfl, rfl⟩ := quoted_of_asString hq h
      exact ⟨w, _, hw, .string (.cooked hq htext), by simp [hcs]⟩
    split at h
    · obtain ⟨text, i, htext, rfl, hinner⟩ := integerText_of_readInteger h
      exact ⟨w, text, hw, .integer htext, by rw [hcs, hinner]⟩
    split at h
    · split at h
      · split at h
        · next hquote =>
          have hq := isQuote_iff.mp hquote
          obtain ⟨text, value, htext, rfl, rfl⟩ := quoted_of_asString hq h
          exact ⟨w, _, hw, .string (.raw hq htext), by simp [hcs]⟩
        · exact hword h
      · exact hword h
    · cases h

/-- **What is read is denoted by what was consumed**, whatever the fuel. -/
theorem sound_read (fuel : Nat) :
    Sound (readValue fuel) ∧ Sound (readWord fuel) ∧ SoundItems (readItems fuel) := by
  -- the readers call one another with one unit less, so they are sound together
  induction fuel with
  | zero =>
    refine ⟨fun cs v rest h => ?_, fun cs v rest h => ?_, fun items cs v rest h => ?_⟩
    · simp [readValue] at h
    · simp [readWord] at h
    · simp [readItems] at h
  | succ fuel ih =>
    obtain ⟨ihValue, ihWord, ihItems⟩ := ih
    exact ⟨sound_readValue ihWord ihItems, sound_readWord ihValue,
      soundItems_readItems ihValue ihItems⟩

/-! ## What is denoted is read -/

theorem StringText.exists_head {text : List Char} {s : String} (h : StringText text s) :
    ∃ c body, text = c :: body ∧ isBlank c = false ∧ c ≠ ']' := by
  cases h with
  | cooked hq _ =>
    rcases hq with rfl | rfl
    all_goals exact ⟨_, _, rfl, by decide, by decide⟩
  | raw => exact ⟨_, _, rfl, by decide, by decide⟩

theorem StringText.trimStart_append {text : List Char} {s : String} (h : StringText text s)
    (hw : Blanks w) (rest : List Char) : trimStart (w ++ (text ++ rest)) = text ++ rest := by
  obtain ⟨c, body, rfl, hc, -⟩ := h.exists_head
  rw [trimStart_blanks_append hw, List.cons_append, trimStart_cons hc]

theorem readValue_blanks_append (fuel : Nat) (hw : Blanks w) (s : List Char) :
    readValue (fuel + 1) (w ++ s) = readValue (fuel + 1) s := by
  unfold readValue
  rw [trimStart_blanks_append hw]

theorem readValue_of_stringText {text : List Char} {s : String} (h : StringText text s) (fuel : Nat)
    (rest : List Char) : readValue (fuel + 1) (text ++ rest) = .ok (.string s, rest) := by
  cases h with
  | @cooked quote text value hq hitems =>
    have hread : readQuoted false quote (text ++ quote :: rest) = .ok (value, rest) :=
      (readQuoted_eq_ok_iff (ne_backslash_of_quote hq)).mpr ⟨text, hitems, rfl⟩
    rcases hq with rfl | rfl
    all_goals
      unfold readValue
      rw [List.cons_append, trimStart_cons (by decide)]
      simp [isQuote, asString, hread]
  | @raw quote text value hq hitems =>
    have hread : readQuoted true quote (text ++ quote :: rest) = .ok (value, rest) :=
      (readQuoted_eq_ok_iff (ne_backslash_of_quote hq)).mpr ⟨text, hitems, rfl⟩
    have hr : isAlphabetic 'r' = true := by decide
    rcases hq with rfl | rfl
    all_goals
      unfold readValue
      rw [List.cons_append, trimStart_cons (by decide)]
      simp [isQuote, beginsInteger, isAsciiDigit, hr, asString, hread]

/-! ### Lists -/

section Items

variable {text behind following : List Char} {item : String}

theorem readItems_close (hw : Blanks w) (hitem : StringText text item)
    (h : trimStart behind = ']' :: rest) (fuel : Nat) (items : List String) :
    readItems (fuel + 2) items (w ++ (text ++ behind)) = .ok (.list (items ++ [item]), rest) := by
  rw [readItems]
  simp only [hitem.trimStart_append hw, readValue_of_stringText hitem, h]

theorem readItems_trailing (hw : Blanks w) (hitem : StringText text item)
    (h : trimStart behind = ',' :: following) (h' : trimStart following = ']' :: rest) (fuel : Nat)
    (items : List String) :
    readItems (fuel + 2) items (w ++ (text ++ behind)) = .ok (.list (items ++ [item]), rest) := by
  rw [readItems]
  simp only [hitem.trimStart_append hw, readValue_of_stringText hitem, h, h']

theorem readItems_next {s : List Char} (hw : Blanks w) (hitem : StringText text item)
    (h : trimStart behind = ',' :: following) (h' : trimStart following = c :: s) (hc : c ≠ ']')
    (fuel : Nat) (items : List String) :
    readItems (fuel + 2) items (w ++ (text ++ behind)) =
      readItems (fuel + 1) (items ++ [item]) (c :: s) := by
  rw [readItems]
  simp only [hitem.trimStart_append hw, readValue_of_stringText hitem, h, h']
  split
  · next heq => exact absurd (List.cons.inj heq).1 hc
  · rfl

theorem readItems_of_listTail {tail : List Char} {more : List String} (hw : Blanks w)
    (hitem : StringText text item) (htail : ListTail tail more) (fuel : Nat) (items : List String)
    (rest : List Char) :
    readItems (fuel + more.length + 2) items (w ++ (text ++ (tail ++ rest))) =
      .ok (.list (items ++ item :: more), rest) := by
  -- one unit of fuel for each further item, and two for the last: the reader goes round once more
  -- for every comma, and an item is a value
  induction htail generalizing w text item items with
  | @close w' hw' =>
    have h : trimStart (w' ++ [']'] ++ rest) = ']' :: rest := by
      rw [List.append_assoc, trimStart_blanks_append hw']
      exact trimStart_cons (by decide) rest
    exact readItems_close hw hitem h _ items
  | @trailing w' w'' hw' hw'' =>
    have h : trimStart (w' ++ ',' :: (w'' ++ [']']) ++ rest) = ',' :: (w'' ++ ']' :: rest) := by
      rw [List.append_assoc, trimStart_blanks_append hw']
      simpa using trimStart_cons (show isBlank ',' = false by decide) _
    have h' : trimStart (w'' ++ ']' :: rest) = ']' :: rest := by
      rw [trimStart_blanks_append hw'']
      exact trimStart_cons (by decide) rest
    exact readItems_trailing hw hitem h h' _ items
  | @next w' w'' text' tail item' more hw' hw'' hitem' _ ih =>
    have h : trimStart (w' ++ ',' :: (w'' ++ (text' ++ tail)) ++ rest) =
        ',' :: (w'' ++ (text' ++ (tail ++ rest))) := by
      rw [List.append_assoc, trimStart_blanks_append hw']
      simpa using trimStart_cons (show isBlank ',' = false by decide) _
    have h' := hitem'.trimStart_append hw'' (tail ++ rest)
    obtain ⟨c, body, rfl, -, hc⟩ := hitem'.exists_head
    have hmore := ih (w := []) nofun hitem' (items ++ [item])
    have hlen : fuel + (item' :: more).length + 2 = fuel + more.length + 1 + 2 := by
      rw [List.length_cons]
      omega
    rw [hlen, readItems_next hw hitem h h' hc]
    simpa using hmore

end Items

/-! ### Words -/

/-- The characters of a class are taken up to the first one outside it. -/
theorem takeWhile_word {inside : Char → Bool} {word : List Char}
    (hword : ∀ c ∈ word, inside c = true) (hend : ∀ c ∈ rest.head?, inside c = false) :
    (word ++ rest).takeWhile inside = word := by
  rw [List.takeWhile_append_of_pos hword]
  cases rest with
  | nil => simp
  | cons c rest => simp [hend c rfl]

theorem dropWhile_word {inside : Char → Bool} {word : List Char}
    (hword : ∀ c ∈ word, inside c = true) (hend : ∀ c ∈ rest.head?, inside c = false) :
    (word ++ rest).dropWhile inside = rest := by
  rw [List.dropWhile_append_of_pos hword]
  cases rest with
  | nil => rfl
  | cons c rest => simp [hend c rfl]

/-- What begins like a word of the grammar is read as a word. -/
theorem readValue_of_letter {d : Char} (hc : c ∈ ['T', 't', 'F', 'f', 'r']) (hd : isQuote d = false)
    (fuel : Nat) (s : List Char) :
    readValue (fuel + 1) (c :: d :: s) = readWord fuel (c :: d :: s) := by
  have hall : ∀ c ∈ ['T', 't', 'F', 'f', 'r'],
      (!isBlank c && !isQuote c && !beginsInteger c && isAlphabetic c) = true :=
    List.all_eq_true.mp (by decide)
  obtain ⟨⟨⟨hblank, hquote⟩, hint⟩, halpha⟩ : ((isBlank c = false ∧ isQuote c = false) ∧
      beginsInteger c = false) ∧ isAlphabetic c = true := by
    simpa using hall c hc
  simp only [List.mem_cons, List.not_mem_nil, or_false] at hc
  unfold readValue
  rw [trimStart_cons hblank]
  rcases hc with rfl | rfl | rfl | rfl | rfl
  all_goals simp [hquote, hint, halpha, hd]

theorem readWord_of_boolean {text : List Char} {value : Bool} (h : (text, value) ∈ booleans)
    (hend : EndsWord rest) (fuel : Nat) :
    readWord (fuel + 1) (text ++ rest) = .ok (.boolean value, rest) := by
  have hall : ∀ p ∈ booleans, p.1.all continuesWord = true := List.all_eq_true.mp (by decide)
  have hword := List.all_eq_true.mp (hall _ h)
  unfold readWord
  rw [takeWhile_word hword hend, dropWhile_word hword hend]
  simp only [booleans, List.mem_cons, Prod.mk.injEq, List.not_mem_nil, or_false] at h
  rcases h with ⟨rfl, rfl⟩ | ⟨rfl, rfl⟩ | ⟨rfl, rfl⟩ | ⟨rfl, rfl⟩
  all_goals rfl

theorem compile_source {p : Pattern} {source : List Char} (hp : p.source = String.ofList source)
    (start rest : List Char) : compile source start rest = .ok (.pattern p, rest) := by
  unfold compile
  rw [← hp, Pattern.compile_source]

theorem readWord_of_compiled {w' w'' text : List Char} {p : Pattern} (hw : Blanks w)
    (hw' : Blanks w') (h : StringText text p.source) (hw'' : Blanks w'') (fuel : Nat)
    (rest : List Char) :
    readWord (fuel + 2) ("re.compile".toList ++ (w ++ '(' :: (w' ++ (text ++ (w'' ++ ')' :: rest)))))
      = .ok (.pattern p, rest) := by
  have hword : ∀ c ∈ "re.compile".toList, continuesWord c = true :=
    List.all_eq_true.mp (by decide)
  have hopen : EndsWord (w ++ '(' :: (w' ++ (text ++ (w'' ++ ')' :: rest)))) :=
    endsWord_blanks_append hw (endsWord_cons (by decide) _)
  have hinner := trimStart_cons (show isBlank '(' = false by decide)
    (w' ++ (text ++ (w'' ++ ')' :: rest)))
  have hclose := trimStart_cons (show isBlank ')' = false by decide) rest
  have hcompile : ∀ start, compile p.source.toList start rest = .ok (.pattern p, rest) :=
    fun start => compile_source (String.ofList_toList).symm start rest
  rw [readWord, takeWhile_word hword hopen, dropWhile_word hword hopen,
    trimStart_blanks_append hw, hinner]
  simp only [h.trimStart_append hw', readValue_of_stringText h, trimStart_blanks_append hw'', hclose,
    hcompile]
  rfl

/-! ### Values -/

theorem readValue_of_boolean {text : List Char} {value : Bool} (h : (text, value) ∈ booleans)
    (hend : EndsWord rest) (fuel : Nat) :
    readValue (fuel + 2) (text ++ rest) = .ok (.boolean value, rest) := by
  rw [← readWord_of_boolean h hend fuel]
  simp only [booleans, List.mem_cons, Prod.mk.injEq, List.not_mem_nil, or_false] at h
  rcases h with ⟨rfl, rfl⟩ | ⟨rfl, rfl⟩ | ⟨rfl, rfl⟩ | ⟨rfl, rfl⟩
  all_goals exact readValue_of_letter (by decide) (by decide) _ _

theorem IntegerText.exists_head {text : List Char} {n : Int} (h : IntegerText text n) :
    ∃ c body, text = c :: body ∧ beginsInteger c = true := by
  obtain ⟨hs, hd, -⟩ := h
  cases hs with
  | none => exact ⟨_, _, rfl, by simp [beginsInteger, hd]⟩
  | plus => exact ⟨_, _, rfl, rfl⟩
  | minus => exact ⟨_, _, rfl, rfl⟩

theorem not_isBlank_of_beginsInteger (h : beginsInteger c = true) : isBlank c = false := by
  rw [← Bool.not_eq_true]
  intro hblank
  have hword := continuesWord_of_blank hblank
  simp only [beginsInteger, Bool.or_eq_true, beq_iff_eq] at h
  rcases h with (rfl | rfl) | hd
  · exact absurd hblank (by decide)
  · exact absurd hblank (by decide)
  · simp [continuesWord_of_digit hd] at hword

theorem readValue_of_beginsInteger (h : beginsInteger c = true) (fuel : Nat) (s : List Char) :
    readValue (fuel + 1) (c :: s) = readInteger (c :: s) := by
  have hlist : c ≠ '[' := by
    rintro rfl
    exact absurd h (by decide)
  have hslash : c ≠ '/' := by
    rintro rfl
    exact absurd h (by decide)
  have hquote : isQuote c = false := by
    rw [← Bool.not_eq_true, isQuote_iff]
    rintro (rfl | rfl)
    all_goals exact absurd h (by decide)
  unfold readValue
  rw [trimStart_cons (not_isBlank_of_beginsInteger h)]
  simp [hquote, h]

theorem readValue_of_slashed {text value : List Char} {p : Pattern} (h : Slashed text value)
    (hp : p.source = String.ofList value) (fuel : Nat) (rest : List Char) :
    readValue (fuel + 1) ('/' :: (text ++ '/' :: rest)) = .ok (.pattern p, rest) := by
  have hread : readSlashed (text ++ '/' :: rest) = .ok (value, rest) :=
    readSlashed_eq_ok_iff.mpr ⟨text, h, rfl⟩
  unfold readValue
  rw [trimStart_cons (by decide)]
  simp only [hread, compile_source hp]

theorem readValue_of_emptyList (hw : Blanks w) (fuel : Nat) (rest : List Char) :
    readValue (fuel + 1) ('[' :: (w ++ ']' :: rest)) = .ok (.list [], rest) := by
  unfold readValue
  rw [trimStart_cons (by decide)]
  simp only [trimStart_blanks_append hw, trimStart_cons (show isBlank ']' = false by decide)]

theorem readValue_of_list {text tail : List Char} {item : String} {more : List String}
    (hw : Blanks w) (hitem : StringText text item) (htail : ListTail tail more) {fuel : Nat}
    (hf : more.length + 2 ≤ fuel) (rest : List Char) :
    readValue (fuel + 1) ('[' :: (w ++ (text ++ (tail ++ rest)))) =
      .ok (.list (item :: more), rest) := by
  obtain ⟨fuel, rfl⟩ : ∃ k, fuel = k + more.length + 2 := ⟨fuel - (more.length + 2), by omega⟩
  have hitems := readItems_of_listTail (w := []) nofun hitem htail fuel [] rest
  have hstart := hitem.trimStart_append hw (tail ++ rest)
  obtain ⟨c, body, rfl, -, hc⟩ := hitem.exists_head
  unfold readValue
  rw [trimStart_cons (by decide)]
  simp only [hstart]
  split
  · next heq => exact absurd (List.cons.inj heq).1 hc
  · exact hitems

theorem ListTail.length_lt {tail : List Char} {more : List String} (h : ListTail tail more) :
    more.length < tail.length := by
  induction h with
  | close => simp
  | trailing => simp
  | next _ _ _ _ ih =>
    simp only [List.length_append, List.length_cons]
    omega

/-- **What is denoted is read**, and nothing behind it is, if the fuel exceeds the length of the
literal and the text does not go on with a word. -/
theorem readValue_of_denotes {core : List Char} (h : Denotes core v) (hend : EndsWord rest)
    {fuel : Nat} (hf : core.length + 3 ≤ fuel) : readValue fuel (core ++ rest) = .ok (v, rest) := by
  -- a named pattern takes the most: for the value, for its name and for the string in it
  obtain ⟨fuel, rfl⟩ : ∃ k, fuel = k + 3 := ⟨fuel - 3, by omega⟩
  cases h with
  | boolean h => exact readValue_of_boolean h hend _
  | integer h =>
    obtain ⟨c, body, rfl, hc⟩ := h.exists_head
    rw [List.cons_append, readValue_of_beginsInteger hc]
    exact readInteger_of_integerText h hend
  | string h => exact readValue_of_stringText h _ rest
  | emptyList hw => simpa using readValue_of_emptyList hw _ rest
  | @list w text tail item items hw hitem h =>
    have hlen := h.length_lt
    simp only [List.length_cons, List.length_append] at hf
    simpa using readValue_of_list hw hitem h (by omega) rest
  | compiled hw hw' h hw'' =>
    have hname : "re.compile".toList = 'r' :: 'e' :: ".compile".toList := by decide
    have hread := readWord_of_compiled hw hw' h hw'' fuel rest
    rw [hname, List.cons_append, List.cons_append,
      ← readValue_of_letter (by decide) (by decide)] at hread
    simpa [hname] using hread
  | slashed h hp => simpa using readValue_of_slashed h hp _ rest

/-! ## Whole texts -/

theorem parseChars_eq_ok_iff : parseChars cs = .ok v ↔
    ∃ rest, readValue (fuelFor cs) cs = .ok (v, rest) ∧ trimStart rest = [] := by
  unfold parseChars readAll
  cases hread : readValue (fuelFor cs) cs with
  | error stop => simp
  | ok p =>
    obtain ⟨u, rest⟩ := p
    cases hrest : trimStart rest with
    | nil => simp [hrest]
    | cons c rest' => simp [hrest]

/-- **A text is read as a literal exactly if it denotes it**, with blanks around it allowed: nothing
outside the grammar is accepted, and the value is that of the grammar. -/
theorem parse_eq_ok_iff (text : String) (v : Literal) :
    parse text = .ok v ↔ ∃ w core w', Blanks w ∧ Denotes core v ∧ Blanks w' ∧
      text.toList = w ++ core ++ w' := by
  rw [parse, parseChars_eq_ok_iff]
  constructor
  · rintro ⟨rest, hread, hrest⟩
    obtain ⟨w, core, hw, hcore, htext⟩ := (sound_read _).1 _ _ _ hread
    obtain ⟨w', hw', hblanks⟩ := exists_blanks_of_trimStart hrest
    rw [List.append_nil] at hblanks
    exact ⟨w, core, w', hw, hcore, hw', by rw [htext, hblanks, List.append_assoc]⟩
  · rintro ⟨w, core, w', hw, hcore, hw', htext⟩
    refine ⟨w', ?_, trimStart_of_blanks hw'⟩
    have hf : core.length + 3 ≤ fuelFor text.toList := by
      rw [htext, fuelFor]
      simp only [List.length_append]
      omega
    rw [htext, List.append_assoc] at hf ⊢
    rw [fuelFor, readValue_blanks_append _ hw]
    exact readValue_of_denotes hcore (endsWord_of_blanks hw') hf

end Conformance.Literal
