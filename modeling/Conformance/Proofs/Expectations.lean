import Conformance.Proofs.Dictionary
import Conformance.Proofs.Directive.Block

/-!
# What directives say about a run

Every directive with a recognised key has to be of the type of its key, and the first one that is
not is complained about, whatever stands behind it. If all are, then of several directives with one
key the last one counts. A text is read in two passes: values that are no literals are looked for in
all lines of the block before any type is looked at.

## Main definitions

* `Views`: a view of literals that sees those that are wanted
* `Directive.recognised`: the recognised keys, and what each of them wants
* `Directive.IllTyped`, `Directive.FirstIllTyped`: a directive that is not of the type of its key,
  and the first such directive
* `Directive.lastValue?`: the value of the last directive with a key
* `Expectations.Fits`: expectations have of a key what a value of it says
* `Expectations.Reflects`: expectations have of every key what the last directive with it says

## Main results

* `Views.viewed_eq_ok_iff`, `Views.viewed_eq_error_iff`: the value of one directive
* `Expectations.add_eq_error_iff`, `Expectations.Reflects.add`: what one more directive does
* `Expectations.addAll_eq_error_iff`, `Expectations.Reflects.addAll`: what any more directives do
* `Expectations.last_directives_count`: the expectations that directives state, and what is wrong
  with those that state none
-/

namespace Conformance

/-- The first element of some kind, those before it being of another: it is the head, or the head is
of that other kind and it is the first one behind. -/
theorem exists_first_cons_iff {α : Type} {P Q : α → Prop} {a : α} {l : List α} :
    (∃ before x after, a :: l = before ++ x :: after ∧ (∀ y ∈ before, P y) ∧ Q x) ↔
      Q a ∨ P a ∧
        ∃ before x after, l = before ++ x :: after ∧ (∀ y ∈ before, P y) ∧ Q x := by
  constructor
  · rintro ⟨before, x, after, hsplit, hbefore, hx⟩
    cases before with
    | nil =>
      obtain ⟨rfl, -⟩ := List.cons.inj hsplit
      exact .inl hx
    | cons first before =>
      obtain ⟨rfl, rfl⟩ := List.cons.inj hsplit
      obtain ⟨ha, hbefore⟩ := List.forall_mem_cons.mp hbefore
      exact .inr ⟨ha, before, x, after, rfl, hbefore, hx⟩
  · rintro (ha | ⟨ha, before, x, after, rfl, hbefore, hx⟩)
    · exact ⟨[], a, l, rfl, nofun, ha⟩
    · exact ⟨a :: before, x, after, rfl, List.forall_mem_cons.mpr ⟨ha, hbefore⟩, hx⟩

/-! ## The types of keys -/

/-- The literal is of the kind that is wanted; an exit status has to fit into 32 bits. -/
def Expected.Admits : Expected → Literal → Prop
  | list, .list _ => True
  | string, .string _ => True
  | pattern, .pattern _ => True
  | integer, .integer _ => True
  | boolean, .boolean _ => True
  | exitStatus, .integer n => -2147483648 ≤ n.toInt ∧ n.toInt ≤ 2147483647
  | _, _ => False

/-- What is said to be wanted in place of a literal: for an exit status an integer, if the literal
is not even that. -/
def Expected.inPlaceOf (wanted : Expected) (found : Literal) : Expected :=
  if wanted = .exitStatus ∧ found.kind ≠ .integer then .integer else wanted

/-- **A view of literals sees those that are wanted**: just those made of a value in one way, as that
value. -/
structure Views {α : Type} (wanted : Expected) (view : Literal → Option α) (literal : α → Literal) :
    Prop where
  eq_some_iff : ∀ v value, view v = some value ↔ v = literal value
  admits_iff : ∀ v, wanted.Admits v ↔ ∃ value, v = literal value
  inPlaceOf_eq : ∀ v, wanted.inPlaceOf v = wanted

theorem views_list : Views .list Literal.list? .list where
  eq_some_iff v value := by cases v <;> simp [Literal.list?]
  admits_iff v := by cases v <;> simp [Expected.Admits]
  inPlaceOf_eq _ := rfl

theorem views_string : Views .string Literal.string? .string where
  eq_some_iff v value := by cases v <;> simp [Literal.string?]
  admits_iff v := by cases v <;> simp [Expected.Admits]
  inPlaceOf_eq _ := rfl

theorem views_pattern : Views .pattern Literal.pattern? .pattern where
  eq_some_iff v value := by cases v <;> simp [Literal.pattern?]
  admits_iff v := by cases v <;> simp [Expected.Admits]
  inPlaceOf_eq _ := rfl

theorem views_boolean : Views .boolean Literal.boolean? .boolean where
  eq_some_iff v value := by cases v <;> simp [Literal.boolean?]
  admits_iff v := by cases v <;> simp [Expected.Admits]
  inPlaceOf_eq _ := rfl

section

variable {α : Type} {wanted : Expected} {view : Literal → Option α} {literal : α → Literal}

theorem Views.eq_none_iff (h : Views wanted view literal) {v : Literal} :
    view v = none ↔ ¬ wanted.Admits v := by
  rw [Option.eq_none_iff_forall_ne_some, h.admits_iff, not_exists]
  exact forall_congr' fun value => not_congr (h.eq_some_iff v value)

theorem Views.viewed_eq_ok_iff (h : Views wanted view literal) {d : Directive} {value : α} :
    d.viewed wanted view = .ok value ↔ d.value = literal value := by
  rw [← h.eq_some_iff, Directive.viewed]
  cases view d.value <;> simp

theorem Views.viewed_eq_error_iff (h : Views wanted view literal) {d : Directive}
    {err : Directive.Error} :
    d.viewed wanted view = .error err ↔
      ¬ wanted.Admits d.value ∧ err = d.mismatch (wanted.inPlaceOf d.value) := by
  rw [← h.eq_none_iff, h.inPlaceOf_eq, Directive.viewed]
  cases view d.value <;> simp [eq_comm]

end

namespace Directive

/-- **The recognised keys**, and what each of them wants for its value. -/
def recognised : List (String × Expected) :=
  [("rumur_flags", .list), ("rumur_exit_code", .exitStatus), ("c_flags", .list),
   ("ld_flags", .list), ("c_exit_code", .exitStatus), ("checker_exit_code", .exitStatus),
   ("checker_output", .pattern), ("skip_reason", .string)]

/-- The key of the directive is recognised, and the value is not what it wants; the complaint names
the line of the directive. -/
def Complaint (d : Directive) (err : Error) : Prop :=
  ∃ wanted, (d.key, wanted) ∈ recognised ∧ ¬ wanted.Admits d.value ∧
    err = ⟨d.line, .wrongKind d.key (wanted.inPlaceOf d.value) d.value.kind⟩

/-- The key of the directive is recognised, and the value is not what it wants. -/
def IllTyped (d : Directive) : Prop :=
  ∃ wanted, (d.key, wanted) ∈ recognised ∧ ¬ wanted.Admits d.value

/-- A complaint about the first directive that is ill-typed. -/
def FirstIllTyped (ds : List Directive) (err : Error) : Prop :=
  ∃ before d after, ds = before ++ d :: after ∧ (∀ d' ∈ before, ¬ d'.IllTyped) ∧ d.Complaint err

/-- The value of the last directive with a key. -/
def lastValue? (ds : List Directive) (key : String) : Option Literal :=
  (ds.filter fun d => d.key = key).getLast?.map Directive.value

variable {ds : List Directive} {d : Directive} {key : String} {err : Error}

theorem illTyped_iff_exists_complaint : d.IllTyped ↔ ∃ err, d.Complaint err := by
  constructor
  · rintro ⟨wanted, hkey, hvalue⟩
    exact ⟨_, wanted, hkey, hvalue, rfl⟩
  · rintro ⟨-, wanted, hkey, hvalue, -⟩
    exact ⟨wanted, hkey, hvalue⟩

/-- One more directive is the last one with its key. -/
theorem lastValue?_concat (ds : List Directive) (d : Directive) (key : String) :
    lastValue? (ds ++ [d]) key = if d.key = key then some d.value else lastValue? ds key := by
  unfold lastValue?
  by_cases hkey : d.key = key <;> simp [hkey]

/-! ## Exit statuses -/

/-- The literal is an integer and the exit status is its value. -/
def IsStatus (v : Literal) (code : Int32) : Prop :=
  ∃ n, v = .integer n ∧ code.toInt = n.toInt

theorem exitCode?_eq_some_iff {n : Int64} {code : Int32} :
    exitCode? n = some code ↔ code.toInt = n.toInt := by
  unfold exitCode?
  rw [Int32.toInt_minValue, Int32.toInt_maxValue]
  constructor
  · intro h
    split_ifs at h with hrange
    rw [← Option.some.inj h, Int32.toInt_ofInt_of_le (by omega) (by omega)]
  · intro h
    have hle := code.le_toInt
    have hlt := code.toInt_lt
    rw [if_pos (by omega), ← h, Int32.ofInt_toInt]

theorem exitCode_eq_ok_iff {code : Int32} : d.exitCode = .ok code ↔ IsStatus d.value code := by
  unfold exitCode IsStatus
  cases d.value with
  | integer n =>
    cases hcode : exitCode? n with
    | none =>
      have hno : ¬ code.toInt = n.toInt := by
        rw [← exitCode?_eq_some_iff, hcode]
        simp
      simp [Literal.integer?, hcode, hno]
    | some code' =>
      simp [Literal.integer?, hcode, ← exitCode?_eq_some_iff]
  | boolean | string | list | pattern => simp [Literal.integer?]

/-! ## Complaints -/

/-- Only one thing is wanted for a key. -/
theorem recognised_unique {wanted wanted' : Expected} (h : (key, wanted) ∈ recognised)
    (h' : (key, wanted') ∈ recognised) : wanted = wanted' := by
  have hkeys : (recognised.map Prod.fst).Nodup := by decide
  exact congrArg Prod.snd (List.inj_on_of_nodup_map hkeys h h' rfl)

theorem complaint_iff_of_mem (wanted : Expected) (h : (d.key, wanted) ∈ recognised) :
    d.Complaint err ↔
      ¬ wanted.Admits d.value ∧ err = d.mismatch (wanted.inPlaceOf d.value) := by
  constructor
  · rintro ⟨wanted', hkey, hvalue, rfl⟩
    obtain rfl := recognised_unique h hkey
    exact ⟨hvalue, rfl⟩
  · rintro ⟨hvalue, rfl⟩
    exact ⟨wanted, h, hvalue, rfl⟩

theorem exitCode?_eq_none_iff {n : Int64} :
    exitCode? n = none ↔ ¬ Expected.exitStatus.Admits (.integer n) := by
  unfold exitCode? Expected.Admits
  rw [Int32.toInt_minValue, Int32.toInt_maxValue]
  split_ifs with hrange <;> simp <;> omega

theorem exitCode_eq_error_iff :
    d.exitCode = .error err ↔ ¬ Expected.exitStatus.Admits d.value ∧
      err = d.mismatch (Expected.exitStatus.inPlaceOf d.value) := by
  unfold exitCode
  cases d.value with
  | integer n =>
    rw [← exitCode?_eq_none_iff]
    cases hcode : exitCode? n <;>
      simp [Literal.integer?, hcode, Expected.inPlaceOf, Literal.kind, eq_comm]
  | boolean | string | list | pattern =>
    simp [Literal.integer?, Expected.Admits, Expected.inPlaceOf, Literal.kind, eq_comm]

end Directive

namespace Expectations

open Directive

variable {e e' : Expectations} {ds seen : List Directive} {d : Directive} {err : Error}
  {key : String} {α : Type}

/-! ## What expectations have of a key -/

/-- The value is what a literal means, if there is one, and else the default. -/
def Tells (means : Literal → α → Prop) (default : α) (v : Option Literal) (x : α) : Prop :=
  match v with
  | some v => means v x
  | none => x = default

/-- The value is given, and it is what a literal means. -/
def IsGiven (means : Literal → α → Prop) (v : Literal) (x : Option α) : Prop :=
  ∃ y, x = some y ∧ means v y

/-- **What expectations have of a key**, if this literal was stated for it, or none was: a recognised
key has its own part of them, and any other key has its literal. -/
def Fits (e : Expectations) (key : String) (v : Option Literal) : Prop :=
  match key with
  | "rumur_flags" => Tells (fun v l => v = .list l) [] v e.generatorFlags
  | "rumur_exit_code" => Tells IsStatus 0 v e.generatorStatus
  | "c_flags" => Tells (IsGiven fun v l => v = .list l) none v e.compilerFlags
  | "ld_flags" => Tells (IsGiven fun v l => v = .list l) none v e.linkerFlags
  | "c_exit_code" => Tells IsStatus 0 v e.compilerStatus
  | "checker_exit_code" => Tells IsStatus 0 v e.checkerStatus
  | "checker_output" => Tells (IsGiven fun v p => v = .pattern p) none v e.checkerOutput
  | "skip_reason" => Tells (IsGiven fun v s => v = .string s) none v e.skipReason
  | key => e.extra.get? key = v

theorem fits_default (key : String) : ({} : Expectations).Fits key none := by
  unfold Fits
  split <;> rfl

theorem map_eq_ok_iff {r : Except Error α} {f : α → Expectations} :
    r.map f = .ok e ↔ ∃ x, r = .ok x ∧ f x = e := by
  cases r <;> simp [Except.map]

theorem map_eq_error_iff {r : Except Error α} {f : α → Expectations} :
    r.map f = .error err ↔ r = .error err := by
  cases r <;> simp [Except.map]

/-! ## One more directive -/

/-- **One more directive is complained about exactly if it is ill-typed.** -/
theorem add_eq_error_iff : e.add d = .error err ↔ d.Complaint err := by
  unfold add
  split
  case h_1 hkey | h_3 hkey | h_4 hkey =>
    rw [map_eq_error_iff, list, views_list.viewed_eq_error_iff,
      complaint_iff_of_mem .list (by simp [recognised, hkey])]
  case h_2 hkey | h_5 hkey | h_6 hkey =>
    rw [map_eq_error_iff, exitCode_eq_error_iff,
      complaint_iff_of_mem .exitStatus (by simp [recognised, hkey])]
  case h_7 hkey =>
    rw [map_eq_error_iff, pattern, views_pattern.viewed_eq_error_iff,
      complaint_iff_of_mem .pattern (by simp [recognised, hkey])]
  case h_8 hkey =>
    rw [map_eq_error_iff, string, views_string.viewed_eq_error_iff,
      complaint_iff_of_mem .string (by simp [recognised, hkey])]
  case h_9 =>
    refine iff_of_false nofun ?_
    rintro ⟨wanted, hkey, -⟩
    simp_all [recognised]

/-- A directive that is taken into account has its own part of the expectations. -/
theorem fits_of_add (h : e.add d = .ok e') : e'.Fits d.key (some d.value) := by
  unfold add at h
  split at h
  case h_1 hkey | h_3 hkey | h_4 hkey =>
    obtain ⟨x, hx, rfl⟩ := map_eq_ok_iff.mp h
    simpa [Fits, Tells, IsGiven, hkey] using views_list.viewed_eq_ok_iff.mp hx
  case h_2 hkey | h_5 hkey | h_6 hkey =>
    obtain ⟨x, hx, rfl⟩ := map_eq_ok_iff.mp h
    simpa [Fits, Tells, hkey] using exitCode_eq_ok_iff.mp hx
  case h_7 hkey =>
    obtain ⟨x, hx, rfl⟩ := map_eq_ok_iff.mp h
    simpa [Fits, Tells, IsGiven, hkey] using views_pattern.viewed_eq_ok_iff.mp hx
  case h_8 hkey =>
    obtain ⟨x, hx, rfl⟩ := map_eq_ok_iff.mp h
    simpa [Fits, Tells, IsGiven, hkey] using views_string.viewed_eq_ok_iff.mp hx
  case h_9 =>
    obtain rfl := Except.ok.inj h
    unfold Fits
    split
    iterate 8 contradiction
    exact Dictionary.get?_insert_self _ _ _

/-- The parts of other keys are kept. -/
theorem fits_of_add_of_ne (h : e.add d = .ok e') (hne : key ≠ d.key) (v : Option Literal) :
    e'.Fits key v ↔ e.Fits key v := by
  unfold add at h
  split at h
  case h_9 =>
    obtain rfl := Except.ok.inj h
    unfold Fits
    split
    iterate 8 rfl
    rw [Dictionary.get?_insert_of_ne hne]
  all_goals
    next hkey =>
      obtain ⟨x, -, rfl⟩ := map_eq_ok_iff.mp h
      unfold Fits
      split
      all_goals first | rfl | exact absurd hkey.symm hne

theorem ascending_of_add (h : e.add d = .ok e') (hasc : e.extra.Ascending) :
    e'.extra.Ascending := by
  unfold add at h
  split at h
  case h_9 =>
    obtain rfl := Except.ok.inj h
    exact hasc.insert _ _
  all_goals
    obtain ⟨x, -, rfl⟩ := map_eq_ok_iff.mp h
    exact hasc

/-- A recognised key is not among the others. -/
theorem get?_extra_of_add {wanted : Expected} (h : e.add d = .ok e')
    (hkey : (key, wanted) ∈ recognised) : e'.extra.get? key = e.extra.get? key := by
  unfold add at h
  split at h
  case h_9 =>
    obtain rfl := Except.ok.inj h
    refine Dictionary.get?_insert_of_ne ?_ _ _
    rintro rfl
    simp_all [recognised]
  all_goals
    obtain ⟨x, -, rfl⟩ := map_eq_ok_iff.mp h
    rfl

/-! ## All directives -/

/-- **Expectations have of every key what the last directive with it says**, or the default if there
is none; the recognised keys are not among the others. -/
structure Reflects (ds : List Directive) (e : Expectations) : Prop where
  fits : ∀ key, e.Fits key (lastValue? ds key)
  unrecognised : ∀ key wanted, (key, wanted) ∈ recognised → e.extra.get? key = none
  ascending : e.extra.Ascending

theorem reflects_nil : Reflects [] {} :=
  ⟨fits_default, fun _ _ _ => rfl, Dictionary.ascending_nil⟩

/-- **One more directive is the last one with its key.** -/
theorem Reflects.add (h : Reflects ds e) (hadd : e.add d = .ok e') : Reflects (ds ++ [d]) e' where
  fits key := by
    rw [lastValue?_concat]
    split_ifs with hkey
    · exact hkey ▸ fits_of_add hadd
    · exact (fits_of_add_of_ne hadd (Ne.symm hkey) _).mpr (h.fits key)
  unrecognised key wanted hkey := by
    rw [get?_extra_of_add hadd hkey]
    exact h.unrecognised key wanted hkey
  ascending := ascending_of_add hadd h.ascending

theorem firstIllTyped_cons_of_error {err' : Error} (h : d.Complaint err') :
    FirstIllTyped (d :: ds) err ↔ d.Complaint err := by
  have hd : d.IllTyped := illTyped_iff_exists_complaint.mpr ⟨err', h⟩
  -- a later directive is not the first one that is ill-typed
  rw [FirstIllTyped, exists_first_cons_iff, or_iff_left fun hlater => hlater.1 hd]

theorem firstIllTyped_cons_of_not (h : ¬ d.IllTyped) :
    FirstIllTyped (d :: ds) err ↔ FirstIllTyped ds err := by
  have hd : ¬ d.Complaint err := fun herr => h (illTyped_iff_exists_complaint.mpr ⟨err, herr⟩)
  rw [FirstIllTyped, exists_first_cons_iff, or_iff_right hd, and_iff_right h, FirstIllTyped]

theorem not_illTyped_of_add (h : e.add d = .ok e') : ¬ d.IllTyped := by
  rw [illTyped_iff_exists_complaint]
  rintro ⟨err, herr⟩
  rw [← add_eq_error_iff (e := e), h] at herr
  contradiction

/-- **The first directive that is ill-typed is complained about**, whatever stands behind it. -/
theorem addAll_eq_error_iff : e.addAll ds = .error err ↔ FirstIllTyped ds err := by
  induction ds generalizing e with
  | nil => simp [FirstIllTyped]
  | cons d ds ih =>
    rw [addAll]
    cases hadd : e.add d with
    | error err' =>
      rw [firstIllTyped_cons_of_error (add_eq_error_iff.mp hadd), ← add_eq_error_iff (e := e), hadd]
    | ok e₁ => rw [firstIllTyped_cons_of_not (not_illTyped_of_add hadd), ← ih]

theorem exists_firstIllTyped_iff : (∃ err, FirstIllTyped ds err) ↔ ∃ d ∈ ds, d.IllTyped := by
  constructor
  · rintro ⟨err, before, d, after, rfl, -, herr⟩
    exact ⟨d, by simp, illTyped_iff_exists_complaint.mpr ⟨err, herr⟩⟩
  · intro h
    induction ds with
    | nil => simp at h
    | cons d ds ih =>
      by_cases hd : d.IllTyped
      · obtain ⟨err, herr⟩ := illTyped_iff_exists_complaint.mp hd
        exact ⟨err, (firstIllTyped_cons_of_error herr).mpr herr⟩
      · simp only [firstIllTyped_cons_of_not hd]
        exact ih (by simpa [hd] using h)

/-- **Directives that are all taken into account are reflected.** -/
theorem Reflects.addAll (h : Reflects seen e) (hall : e.addAll ds = .ok e') :
    Reflects (seen ++ ds) e' := by
  -- by induction on what is still to come; what has been seen is reflected
  induction ds generalizing e seen with
  | nil =>
    obtain rfl := Except.ok.inj hall
    rwa [List.append_nil]
  | cons d ds ih =>
    rw [Expectations.addAll] at hall
    cases hadd : e.add d with
    | error err =>
      rw [hadd] at hall
      contradiction
    | ok e₁ =>
      rw [hadd] at hall
      rw [List.append_cons]
      exact ih (h.add hadd) hall

/-! ## The directives of a text -/

/-- **The last directive with a key counts, and every one has to be of the type of its key.** Some
directives state no expectations exactly if one of them is ill-typed, and then the first one that is
is complained about, whatever stands behind it. Else the expectations have of every recognised key
what the last directive with it says, or the default if there is none; and beside these they have of
just the other keys the value of the last directive with it, if there is one. In a text, a line of
the leading run whose value is no literal is complained about before the type of any line is looked
at. -/
theorem last_directives_count (path : Path) (ds : List Directive) (text : String) :
    ((∃ err, ofDirectives ds = .error err) ↔ ∃ d ∈ ds, d.IllTyped) ∧
      (∀ err, ofDirectives ds = .error err ↔ FirstIllTyped ds err) ∧
      (∀ e, ofDirectives ds = .ok e →
        (∀ key, e.Fits key (lastValue? ds key)) ∧
          (∀ key wanted, (key, wanted) ∈ recognised → e.extra.get? key = none) ∧
          e.extra.Ascending) ∧
      ∃ ls front, Text.Lined text.toList ls ∧ Leading front ls ∧
        (∀ err, FirstFault 1 front err →
          TestInput.ofSource path text = .error (.directive path err)) ∧
        ((¬ ∃ err, FirstFault 1 front err) → ∃ ds, List.Forall₂ States front ds ∧
          ds.map Directive.line = List.range' 1 ds.length ∧
          (∀ err, FirstIllTyped ds err →
            TestInput.ofSource path text = .error (.directive path err)) ∧
          ∀ e, ofDirectives ds = .ok e →
            TestInput.ofSource path text = .ok ⟨path, text, e⟩) := by
  have herror : ∀ {ds err}, ofDirectives ds = .error err ↔ FirstIllTyped ds err :=
    addAll_eq_error_iff
  obtain ⟨ls, hls⟩ := Text.exists_lined text.toList
  obtain ⟨front, hfront⟩ := exists_leading ls
  have hblock := hfront.forall₂_block
  refine ⟨?_, fun _ => herror, fun e he => ?_, ls, front, hls, hfront, fun err hfault => ?_,
    fun hno => ?_⟩
  · simp only [herror, exists_firstIllTyped_iff]
  · have hreflects := reflects_nil.addAll he
    exact ⟨hreflects.fits, hreflects.unrecognised, hreflects.ascending⟩
  · have hparse : Directive.parse text = .error err := by
      rw [parse_of_lined hls]
      exact (ofBlock_eq_error_iff hblock 1 err).mpr hfault
    simp only [TestInput.ofSource, Expectations.parse, hparse]
  · -- no line is at fault, so that every one states a directive
    cases hread : ofBlock 1 (block ls) with
    | error err => exact absurd ⟨err, (ofBlock_eq_error_iff hblock 1 err).mp hread⟩ hno
    | ok ds =>
      obtain ⟨hstates, hlines⟩ := (ofBlock_eq_ok_iff hblock 1 ds).mp hread
      have hparse : Directive.parse text = .ok ds := by rw [parse_of_lined hls, hread]
      refine ⟨ds, hstates, hlines, fun err herr => ?_, fun e he => ?_⟩
      · simp only [TestInput.ofSource, Expectations.parse, hparse, herror.mpr herr]
      · simp only [TestInput.ofSource, Expectations.parse, hparse, he]

/-- A later directive does not make up for an earlier one that is ill-typed. -/
example : ofDirectives [⟨"c_exit_code", .string "1", 1⟩, ⟨"c_exit_code", .integer 1, 2⟩] =
    .error ⟨1, .wrongKind "c_exit_code" .integer .string⟩ := rfl

end Expectations

end Conformance
