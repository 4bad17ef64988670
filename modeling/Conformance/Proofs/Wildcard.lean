import Conformance.Proofs.Catalog.Identity
import Conformance.Proofs.Regular
import Conformance.Proofs.Text.ByteOrder
import Mathlib.Data.List.Infix

/-!
# Filters with wildcards

A filter of letters and digits of ASCII, underscores, dots and the wildcards `*` and `?` is read as
a glob, of which the dot is a literal part. It chooses the jobs whose whole keys the pattern yields
when every star is replaced by some text and every question mark by one character. Keys are written
in these characters without the wildcards, so that a key chooses its own job and no other.

## Main definitions

* `Wildcard.Yields`: what a pattern yields
* `Wildcard.IsPattern`: a text of these characters

## Main results

* `Glob.read?_wildcards`: the glob that a pattern is read as
* `Glob.matchesKey_iff_yields`: it matches what the pattern yields
* `Catalog.wildcards_select`: what filters with wildcards choose
-/

namespace Conformance

namespace Wildcard

/-! ## Patterns -/

/-- A character of a key: a letter or digit of ASCII, an underscore or a dot. -/
def isPlain (c : Char) : Bool :=
  Text.isAsciiLetter c || Text.isAsciiDigit c || c == '_' || c == '.'

/-- A text of characters of keys and of the two wildcards. -/
def IsPattern (p : List Char) : Prop :=
  ∀ c ∈ p, isPlain c = true ∨ c = '*' ∨ c = '?'

instance (p : List Char) : Decidable (IsPattern p) :=
  List.decidableBAll _ p

/-- **What a pattern yields**: a text in the place of every star, a character in the place of every
question mark, and every other character itself. -/
inductive Yields : List Char → List Char → Prop
  | nil : Yields [] []
  | star (s : List Char) {p t : List Char} (h : Yields p t) : Yields ('*' :: p) (s ++ t)
  | any (c : Char) {p t : List Char} (h : Yields p t) : Yields ('?' :: p) (c :: t)
  | plain {c : Char} {p t : List Char} (hstar : c ≠ '*') (hany : c ≠ '?') (h : Yields p t) :
    Yields (c :: p) (c :: t)

section Yields

variable {c : Char} {p t : List Char}

@[simp] theorem yields_nil_iff : Yields [] t ↔ t = [] := by
  constructor
  · rintro ⟨⟩
    rfl
  · rintro rfl
    exact .nil

theorem yields_star_iff : Yields ('*' :: p) t ↔ ∃ s ∈ t.tails, Yields p s := by
  simp only [List.mem_tails]
  constructor
  · intro h
    cases h with
    | star s h => exact ⟨_, List.suffix_append _ _, h⟩
    | plain hstar => exact absurd rfl hstar
  · rintro ⟨_, ⟨s, rfl⟩, h⟩
    exact .star s h

theorem yields_cons_iff (hc : c ≠ '*') :
    Yields (c :: p) t ↔ ∃ d s, t = d :: s ∧ (c = '?' ∨ c = d) ∧ Yields p s := by
  constructor
  · intro h
    cases h with
    | star => exact absurd rfl hc
    | any d h => exact ⟨d, _, rfl, .inl rfl, h⟩
    | plain _ _ h => exact ⟨c, _, rfl, .inr rfl, h⟩
  · rintro ⟨d, s, rfl, hd, h⟩
    by_cases hany : c = '?'
    · exact hany ▸ .any d h
    · obtain rfl := hd.resolve_left hany
      exact .plain hc hany h

end Yields

instance decidableYields : (p t : List Char) → Decidable (Yields p t)
  | [], t => decidable_of_iff (t = []) yields_nil_iff.symm
  | c :: p, t =>
    have : DecidablePred (Yields p) := decidableYields p
    have : Decidable (∃ s ∈ t.tails, Yields p s) := List.decidableBEx _ _
    if hc : c = '*' then
      decidable_of_iff (∃ s ∈ t.tails, Yields p s) (hc ▸ yields_star_iff.symm)
    else
      match t with
      | [] => isFalse fun h => by simp [yields_cons_iff hc] at h
      | d :: s =>
        decidable_of_iff ((c = '?' ∨ c = d) ∧ Yields p s) (by simp [yields_cons_iff hc])

example : Yields "checker*_?ml.*".toList "checker_multithreaded_xml.test_a_m".toList := by decide

/-- A text without wildcards yields itself alone. -/
theorem yields_iff_eq_of_plain {p t : List Char} (hp : ∀ c ∈ p, isPlain c = true) :
    Yields p t ↔ t = p := by
  induction p generalizing t with
  | nil => simp
  | cons c p ih =>
    obtain ⟨hc, hrest⟩ := List.forall_mem_cons.mp hp
    have hstar : c ≠ '*' := by
      rintro rfl
      contradiction
    have hany : c ≠ '?' := by
      rintro rfl
      contradiction
    -- the first character stands for itself, and so do the others
    simp only [yields_cons_iff hstar, hany, false_or, ih hrest]
    constructor
    · rintro ⟨_, _, rfl, rfl, rfl⟩
      rfl
    · rintro rfl
      exact ⟨c, p, rfl, rfl, rfl⟩

end Wildcard

/-! ## Globs -/

namespace Glob

open Wildcard Regular

/-- The part of a glob that a character of a pattern is read as. -/
def wildcardPart (c : Char) : GlobPart :=
  if c = '*' then .star else if c = '?' then .any else .literal c

/-- Two stars are just two stars, unless they are a whole pattern. -/
theorem readDoubleStar_of_pattern {before : Option Char} {l : Level} {p : List Char}
    (hp : IsPattern p) (hbefore : before ≠ some '/') (hstart : l.parts ≠ [] ∨ p ≠ []) :
    readDoubleStar false before l p = ((l.add .star).add .star, some '*', p) := by
  unfold readDoubleStar
  split
  · next hparts =>
    split
    · simp [hparts] at hstart
    · exact absurd (hp '/' List.mem_cons_self) (by decide)
    · rfl
  · rw [if_pos hbefore]

/-- The machine reads a pattern character by character, or two stars at once. -/
theorem readParts_of_pattern {fuel : Nat} {before : Option Char} {l : Level} {p : List Char}
    (hp : IsPattern p) (hfuel : p.length < fuel) (hbefore : before ≠ some '/')
    (hstart : l.parts ≠ [] ∨ p ≠ ['*', '*']) :
    readParts fuel [] before l p = some (l.parts.reverse ++ p.map wildcardPart) := by
  induction fuel generalizing before l p with
  | zero => contradiction
  | succ fuel ih =>
    -- behind a character there are parts, and the rest of the pattern is read from there
    have hstep : ∀ {part : GlobPart} {c : Char} {rest : List Char}, p = c :: rest →
        part = wildcardPart c → c ≠ '/' → readParts fuel [] (some c) (l.add part) rest =
          some (l.parts.reverse ++ p.map wildcardPart) := by
      rintro part c rest rfl rfl hc
      rw [ih (List.forall_mem_cons.mp hp).2 (Nat.lt_of_succ_lt_succ hfuel) (by simpa using hc)
        (.inl (by simp [Level.add]))]
      simp [Level.add]
    have hslash : '/' ∉ p := fun h => absurd (hp '/' h) (by decide)
    unfold readParts
    split
    · simp
    · exact hstep rfl rfl (by decide)
    · next rest =>
      obtain ⟨-, hrest⟩ := List.forall_mem_cons.mp (List.forall_mem_cons.mp hp).2
      have hmore : l.parts ≠ [] ∨ rest ≠ [] := hstart.imp_right fun h hnil => h (by rw [hnil])
      rw [List.isEmpty_nil, Bool.not_true, readDoubleStar_of_pattern hrest hbefore hmore]
      have hlength : rest.length < fuel := by
        simp only [List.length_cons] at hfuel
        omega
      simp [ih hrest hlength, Level.add, wildcardPart]
    · exact hstep rfl rfl (by decide)
    -- the other characters with a meaning in globs are not in a pattern
    · exact absurd (hp '[' List.mem_cons_self) (by decide)
    · exact absurd (hp '{' List.mem_cons_self) (by decide)
    · exact absurd (hp '}' List.mem_cons_self) (by decide)
    · exact absurd (hp ',' List.mem_cons_self) (by decide)
    · next c rest hany _ hstar _ _ _ _ =>
      refine hstep rfl ?_ fun hc => hslash (hc ▸ List.mem_cons_self)
      rw [wildcardPart, if_neg hstar, if_neg hany]

/-- **The glob that a pattern is read as** has a part for every character, unless it is two stars and
nothing else. -/
theorem read?_wildcards {p : List Char} (hp : IsPattern p) :
    read? p = some (if p = ['*', '*'] then [.leading] else p.map wildcardPart) := by
  split
  · next h =>
    subst h
    rfl
  · next h => exact readParts_of_pattern hp (Nat.lt_succ_self _) nofun (.inr h)

/-- The byte of a character of ASCII. -/
def byteOf (c : Char) : UInt8 :=
  UInt8.ofNat c.val.toNat

theorem code_le_of_plain {c : Char} (hc : isPlain c = true) : c.val.toNat ≤ 0x7F := by
  have hle : ∀ {d : Char}, d.val.toNat ≤ 0x7F → c ≤ d → c.val.toNat ≤ 0x7F :=
    fun hd hcd => Nat.le_trans hcd hd
  simp only [isPlain, Text.isAsciiLetter, Text.isAsciiDigit, Bool.or_eq_true, Bool.and_eq_true,
    decide_eq_true_eq, beq_iff_eq] at hc
  rcases hc with ((((⟨-, h⟩ | ⟨-, h⟩) | ⟨-, h⟩) | rfl) | rfl)
  · exact hle (by decide) h
  · exact hle (by decide) h
  · exact hle (by decide) h
  · decide
  · decide

theorem utf8EncodeChar_of_plain {c : Char} (hc : isPlain c = true) :
    String.utf8EncodeChar c = [byteOf c] := by
  rw [String.utf8EncodeChar, if_pos (code_le_of_plain hc)]
  rfl

theorem byteOf_inj {c d : Char} (hc : isPlain c = true) (hd : isPlain d = true) :
    byteOf c = byteOf d ↔ c = d := by
  refine ⟨fun h => ?_, congrArg byteOf⟩
  have hcode := congrArg UInt8.toNat h
  have hc' := code_le_of_plain hc
  have hd' := code_le_of_plain hd
  simp only [byteOf, UInt8.toNat_ofNat'] at hcode
  rw [Nat.mod_eq_of_lt (by omega), Nat.mod_eq_of_lt (by omega)] at hcode
  exact Char.ext (UInt32.toNat_inj.mp hcode)

theorem encode_of_plain {text : String} (h : ∀ c ∈ text.toList, isPlain c = true) :
    Text.encode text = text.toList.map byteOf := by
  rw [Text.encode_eq_flatMap, List.map_eq_flatMap]
  exact List.flatMap_congr fun c hc => utf8EncodeChar_of_plain (h c hc)

theorem spans_anyByte {text : Bytes} {i j : Nat} :
    anyByte.Spans text i j ↔ j = i + 1 ∧ i < text.length := by
  simp [anyByte, Spans, ← Option.isSome_iff_exists]

theorem spans_anyBytes {text : Bytes} {i j : Nat} (hi : i ≤ text.length) :
    anyBytes.Spans text i j ↔ i ≤ j ∧ j ≤ text.length := by
  have hsteps : ∀ n, Steps (anyByte.Spans text) n i j ↔ j = i + n ∧ j ≤ text.length := by
    intro n
    induction n generalizing i with
    | zero =>
      rw [steps_zero]
      omega
    | succ n ih =>
      simp only [steps_succ, spans_anyByte]
      constructor
      · rintro ⟨_, ⟨rfl, hlt⟩, h⟩
        have := (ih hlt).mp h
        omega
      · rintro ⟨rfl, hj⟩
        have hlt : i < text.length := by omega
        exact ⟨i + 1, ⟨rfl, hlt⟩, (ih hlt).mpr (by omega)⟩
  simp only [anyBytes, Regular.star, Spans, hsteps]
  constructor
  · rintro ⟨n, -, -, rfl, hj⟩
    exact ⟨Nat.le_add_right i n, hj⟩
  · rintro ⟨hij, hj⟩
    exact ⟨j - i, Nat.zero_le _, by simp, by omega, hj⟩

/-- A part for a character that is no star matches one character. -/
theorem spans_partExpr {c : Char} {t : List Char} (hc : isPlain c = true ∨ c = '?')
    (hstar : c ≠ '*') (ht : ∀ c ∈ t, isPlain c = true) {i j : Nat} :
    (partExpr (wildcardPart c)).Spans (t.map byteOf) i j ↔
      j = i + 1 ∧ ∃ d, t[i]? = some d ∧ (c = '?' ∨ c = d) := by
  rw [wildcardPart, if_neg hstar]
  by_cases hany : c = '?'
  · simp [hany, partExpr, spans_anyByte, ← Option.isSome_iff_exists]
  · have hplain : isPlain c = true := hc.resolve_right hany
    -- a literal of ASCII is a single byte
    have hword : partExpr (.literal c) = .one (· == byteOf c) := by
      rw [partExpr, encode_of_plain (by simpa using hplain)]
      simp [Regular.word, Regular.ofSeq]
    rw [if_neg hany, hword, Spans, and_congr_right_iff]
    rintro -
    simp only [List.getElem?_map, Option.map_eq_some_iff, beq_iff_eq, hany, false_or]
    constructor
    · rintro ⟨_, ⟨d, hd, rfl⟩, hbyte⟩
      exact ⟨d, hd, ((byteOf_inj (ht d (List.mem_of_getElem? hd)) hplain).mp hbyte).symm⟩
    · rintro ⟨d, hd, rfl⟩
      exact ⟨byteOf c, ⟨c, hd, rfl⟩, rfl⟩

/-- Parts match what the pattern yields, from any position to the end. -/
theorem spans_partsExpr {p t : List Char} (hp : IsPattern p) (ht : ∀ c ∈ t, isPlain c = true)
    {i : Nat} (hi : i ≤ t.length) :
    (partsExpr (p.map wildcardPart)).Spans (t.map byteOf) i t.length ↔ Yields p (t.drop i) := by
  induction p generalizing i with
  | nil =>
    rw [yields_nil_iff, List.drop_eq_nil_iff, List.map_nil, partsExpr, Spans]
    omega
  | cons c p ih =>
    obtain ⟨hc, hrest⟩ := List.forall_mem_cons.mp hp
    rw [List.map_cons, partsExpr, Spans]
    by_cases hstar : c = '*'
    · subst hstar
      have htaken : ∀ k, (partExpr (wildcardPart '*')).Spans (t.map byteOf) i k ↔
          i ≤ k ∧ k ≤ t.length := by
        intro k
        have hi' : i ≤ (t.map byteOf).length := by rwa [List.length_map]
        rw [← t.length_map byteOf]
        exact spans_anyBytes hi'
      simp only [htaken, yields_star_iff, List.mem_tails]
      constructor
      · -- what the star takes ends somewhere, and the rest of the text is left for the pattern
        rintro ⟨k, ⟨hik, hk⟩, h⟩
        obtain ⟨n, rfl⟩ := Nat.exists_eq_add_of_le hik
        refine ⟨t.drop (i + n), ?_, (ih hrest hk).mp h⟩
        rw [← List.drop_drop]
        exact List.drop_suffix _ _
      · rintro ⟨s, hs, h⟩
        -- what the star does not take is what is left from some position on
        have hlength := hs.length_le
        rw [List.length_drop] at hlength
        rw [List.suffix_iff_eq_drop.mp hs, List.drop_drop, List.length_drop] at h
        exact ⟨i + (t.length - i - s.length), ⟨Nat.le_add_right _ _, by omega⟩,
          (ih hrest (by omega)).mpr h⟩
    · have hone : isPlain c = true ∨ c = '?' := hc.imp_right fun h => h.resolve_left hstar
      simp only [yields_cons_iff hstar, spans_partExpr hone hstar ht]
      constructor
      · rintro ⟨_, ⟨rfl, d, hd, hcd⟩, h⟩
        obtain ⟨hlt, rfl⟩ := List.getElem?_eq_some_iff.mp hd
        exact ⟨_, _, List.drop_eq_getElem_cons hlt, hcd, (ih hrest hlt).mp h⟩
      · rintro ⟨d, s, hdrop, hcd, h⟩
        have hlt : i < t.length := by
          rw [← Nat.not_le, ← List.drop_eq_nil_iff, hdrop]
          exact List.cons_ne_nil _ _
        rw [List.drop_eq_getElem_cons hlt, List.cons.injEq] at hdrop
        obtain ⟨rfl, rfl⟩ := hdrop
        exact ⟨i + 1, ⟨rfl, _, List.getElem?_eq_getElem hlt, hcd⟩, (ih hrest hlt).mpr h⟩

theorem expr_wildcards (p : List Char) :
    expr (p.map wildcardPart) = partsExpr (p.map wildcardPart) := by
  unfold expr
  split
  · next h =>
    -- no character is read as directories
    obtain ⟨c, -, hc⟩ := List.map_eq_singleton_iff.mp h
    unfold wildcardPart at hc
    split_ifs at hc
  · rfl

/-- **A glob of a pattern matches what the pattern yields.** -/
theorem matchesKey_iff_yields {p : List Char} {g : Glob} {key : String} (hp : IsPattern p)
    (hg : read? p = some g) (hkey : ∀ c ∈ key.toList, isPlain c = true) :
    g.matchesKey key = true ↔ Yields p key.toList := by
  have hread := read?_wildcards hp
  rw [hg, Option.some.injEq] at hread
  rw [matchesKey, matchesWhole_iff, encode_of_plain hkey, List.length_map]
  split at hread
  · next hstars =>
    -- two stars alone match everything, as they yield everything
    subst hread hstars
    have hall : Yields ['*', '*'] key.toList := by
      simpa using Yields.star key.toList (.star [] .nil)
    simp only [expr, spans_anyBytes (Nat.zero_le _), List.length_map, hall, iff_true]
    exact ⟨Nat.zero_le _, Nat.le_refl _⟩
  · rw [hread, expr_wildcards, spans_partsExpr hp hkey (Nat.zero_le _), List.drop_zero]

end Glob

/-! ## Keys -/

open Wildcard

theorem isPlain_nameChar (c : Char) : isPlain (nameChar c) = true := by
  unfold nameChar
  split
  · next h => simp [isPlain, h]
  · decide

theorem all_isPlain_testName (path : Path) : (testName path).toList.all isPlain = true := by
  rw [testName, String.toList_append, List.all_append, Bool.and_eq_true]
  constructor
  · decide
  · rw [String.toList_ofList, List.all_map, List.all_eq_true]
    exact fun c _ => isPlain_nameChar c

theorem Variant.all_isPlain_suiteName (v : Variant) :
    v.suiteName.toList.all isPlain = true := by
  simp only [suiteName, String.toList_append, List.all_append, Bool.and_eq_true]
  refine ⟨⟨⟨⟨by decide, ?_⟩, ?_⟩, ?_⟩, ?_⟩
  -- one word for every axis
  all_goals
    split
    all_goals decide

theorem Tool.all_isPlain_suiteName (tool : Tool) :
    tool.suiteName.toList.all isPlain = true := by
  cases tool with
  | checker v => exact v.all_isPlain_suiteName
  | _ =>
    rw [suiteName]
    decide

/-- **A key is written without wildcards**, if its id is the name of a test. -/
theorem Job.isPlain_of_mem_key {job : Job} {path : Path} (hsuite : job.suite = job.tool.suiteName)
    (hid : job.id = testName path) : ∀ c ∈ job.key.toList, isPlain c = true := by
  rw [← List.all_eq_true, key, hsuite, hid]
  simp only [String.toList_append, List.all_append, Bool.and_eq_true]
  exact ⟨⟨job.tool.all_isPlain_suiteName, by decide⟩, all_isPlain_testName path⟩

/-! ## Filters -/

/-- A pattern is read as a glob, and never as a regular expression. -/
theorem Filter.read_wildcards {p : String} (hp : IsPattern p.toList) :
    ∃ g, Glob.read? p.toList = some g ∧ Filter.read (some p) = .ok (.glob g) := by
  have hglob : p.toList.any isPatternOnly = false := by
    rw [List.any_eq_false]
    intro c hc honly
    -- none of the characters of regular expressions is in a pattern
    have hmeant : c ∈ "^$()|+\\".toList := List.contains_iff_mem.mp honly
    have hnone : "^$()|+\\".toList.all fun d => ¬ (isPlain d = true ∨ d = '*' ∨ d = '?') := by
      decide
    exact of_decide_eq_true (List.all_eq_true.mp hnone c hmeant) (hp c hc)
  refine ⟨_, Glob.read?_wildcards hp, ?_⟩
  rw [Filter.read, if_neg (by simp [hglob]), Glob.read?_wildcards hp]

namespace Catalog

/-- A key chooses one job of a well-formed catalog. -/
theorem WellFormed.filter_key_eq {c : Catalog} (h : c.WellFormed) {job : Job}
    (hjob : job ∈ c.allJobs) : (c.allJobs.filter fun other => other.key = job.key) = [job] := by
  have hsame : ∀ other ∈ c.allJobs, decide (other.key = job.key) = decide (other = job) := by
    intro other hother
    rw [decide_eq_decide]
    exact ⟨List.inj_on_of_nodup_map h.nodup_keys hother hjob, congrArg Job.key⟩
  rw [List.filter_congr hsame, List.filter_eq, List.count_eq_one_of_mem h.nodup_keys.of_map hjob]
  rfl

/-- **Filters with wildcards choose just what they say.** In a catalog whose ids are names of tests,
a pattern is read as a glob, and it chooses the jobs whose keys it yields, in the order of the
catalog. Every key is such a pattern, and it chooses the one job that it is the key of. -/
theorem wildcards_select (requests : List Request)
    (hids : ∀ job ∈ (afterRequests requests).allJobs, ∃ path, job.id = testName path) :
    (∀ p : String, IsPattern p.toList → ∃ g, Filter.read (some p) = .ok (.glob g) ∧
      (afterRequests requests).jobs (.glob g) =
        (afterRequests requests).allJobs.filter fun job => Yields p.toList job.key.toList) ∧
      ∀ job ∈ (afterRequests requests).allJobs, IsPattern job.key.toList ∧
        ∃ g, Filter.read (some job.key) = .ok (.glob g) ∧
          (afterRequests requests).jobs (.glob g) = [job] := by
  have hplain : ∀ job ∈ (afterRequests requests).allJobs,
      ∀ c ∈ job.key.toList, isPlain c = true := by
    intro job hjob
    obtain ⟨path, hpath⟩ := hids job hjob
    exact job.isPlain_of_mem_key
      ((wellFormed_afterRequests requests).suite_eq_suiteName hjob) hpath
  have hselect : ∀ p : String, IsPattern p.toList → ∃ g, Filter.read (some p) = .ok (.glob g) ∧
      (afterRequests requests).jobs (.glob g) =
        (afterRequests requests).allJobs.filter fun job => Yields p.toList job.key.toList := by
    intro p hp
    obtain ⟨g, hg, hread⟩ := Filter.read_wildcards hp
    refine ⟨g, hread, List.filter_congr fun job hjob => ?_⟩
    rw [Bool.eq_iff_iff, decide_eq_true_iff]
    exact Glob.matchesKey_iff_yields hp hg (hplain job hjob)
  refine ⟨hselect, fun job hjob => ?_⟩
  have hkey := hplain job hjob
  have hpattern : IsPattern job.key.toList := fun c hc => .inl (hkey c hc)
  obtain ⟨g, hread, hjobs⟩ := hselect job.key hpattern
  refine ⟨hpattern, g, hread, ?_⟩
  -- a key has no wildcards, so that it yields itself alone
  rw [hjobs]
  simp only [yields_iff_eq_of_plain hkey, String.toList_inj]
  exact (wellFormed_afterRequests requests).filter_key_eq hjob

/-- A test program and a model: a pattern of the model, and the key of the program. -/
theorem wildcards_select_of_two :
    let program : Request := ⟨.executable, testName "a.b", .executable "a.b"⟩
    let model : Request := ⟨.murphi2c, testName "a.m", ⟨"a.m", "", {}⟩⟩
    let c := afterRequests [model, program]
    (∃ g, Filter.read (some "m*2?.*_m") = .ok (.glob g) ∧ c.jobs (.glob g) = [model.job]) ∧
      ∃ g, Filter.read (some "executable.test_a_b") = .ok (.glob g) ∧
        c.jobs (.glob g) = [program.job] := by
  intro program model c
  have hall : c.allJobs = [program.job, model.job] := by decide +kernel
  have hids : ∀ job ∈ c.allJobs, ∃ path, job.id = testName path := by
    rw [hall]
    simp [program, model, Request.job]
  obtain ⟨hpatterns, hkeys⟩ := wildcards_select [model, program] hids
  constructor
  · obtain ⟨g, hread, hjobs⟩ := hpatterns "m*2?.*_m" (by decide)
    exact ⟨g, hread, hjobs.trans (by decide +kernel)⟩
  · have hmem : program.job ∈ c.allJobs := hall ▸ List.mem_cons_self
    have hkey : program.job.key = "executable.test_a_b" := by decide +kernel
    exact hkey ▸ (hkeys program.job hmem).2

end Catalog

end Conformance
