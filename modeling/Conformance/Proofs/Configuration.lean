import Conformance.Config

/-!
# The configuration that facts state

Facts state a configuration exactly if every recognised one is of its kind; then the configuration
has the value of each, or its default. A word on one fact says nothing about the others.

## Main definitions

* `Config.Flag`: the facts that are flags
* `Config.withFlag`: a configuration with another word on one of them

## Main results

* `Config.ofFacts_eq_ok_iff`: the configuration that facts state, field by field
* `Config.eq_true_iff_of_flagFact`: a flag is set if its fact is
* `Config.ofFacts_insert_flag`: facts that differ in the word on one flag
-/

namespace Conformance.Config

theorem bind_eq_ok_iff {ε α β : Type} {x : Except ε α} {f : α → Except ε β} {b : β} :
    x >>= f = .ok b ↔ ∃ a, x = .ok a ∧ f a = .ok b := by
  cases x with
  | error e => simp [bind, Except.bind]
  | ok a => simp [bind, Except.bind]

theorem bind_eq_error_iff {ε α β : Type} {x : Except ε α} {f : α → Except ε β} {e : ε} :
    x >>= f = .error e ↔ x = .error e ∨ ∃ a, x = .ok a ∧ f a = .error e := by
  cases x with
  | error e' => simp [bind, Except.bind]
  | ok a => simp [bind, Except.bind]

variable {facts : Dictionary Literal} {toolchain : Toolchain} {cpus : Nat} {config : Config}

/-- **The configuration that facts state, field by field.** -/
theorem ofFacts_eq_ok_iff :
    ofFacts facts toolchain cpus = .ok config ↔
      stringFact facts "CC" "cc" = .ok config.cc ∧ stringFact facts "CXX" "c++" = .ok config.cxx ∧
        listFact facts "C_FLAGS" = .ok config.compilerFlags ∧
        flagFact facts "HAS_VALGRIND" = .ok config.hasValgrind ∧
        flagFact facts "HAS_XMLLINT" = .ok config.hasXmllint ∧
        flagFact facts "HAS_UCLID" = .ok config.hasUclid ∧
        flagFact facts "NEEDS_LIBATOMIC" = .ok config.needsLibatomic ∧
        config.facts = facts ∧ config.cpus = max cpus 1 ∧ config.toolchain = toolchain := by
  simp only [ofFacts, bind_eq_ok_iff]
  constructor
  · rintro ⟨cc, hcc, cxx, hcxx, flags, hflags, valgrind, hvalgrind, xmllint, hxmllint, uclid,
      huclid, libatomic, hlibatomic, h⟩
    obtain rfl := Except.ok.inj h
    exact ⟨hcc, hcxx, hflags, hvalgrind, hxmllint, huclid, hlibatomic, rfl, rfl, rfl⟩
  · rintro ⟨hcc, hcxx, hflags, hvalgrind, hxmllint, huclid, hlibatomic, rfl, hcpus, rfl⟩
    refine ⟨_, hcc, _, hcxx, _, hflags, _, hvalgrind, _, hxmllint, _, huclid, _, hlibatomic, ?_⟩
    rw [← hcpus]
    rfl

variable {name key : String}

/-- **A flag is set if its fact is**; without a fact it is not. -/
theorem eq_true_iff_of_flagFact {b : Bool} (h : flagFact facts name = .ok b) :
    b = true ↔ facts.get? name = some (.boolean true) := by
  unfold flagFact viewFact at h
  cases hget : facts.get? name with
  | none =>
    simp only [hget, Except.ok.injEq] at h
    simp [← h]
  | some l =>
    cases l with
    | boolean value =>
      simp only [hget, Literal.boolean?, Except.ok.injEq] at h
      simp [h]
    | string | integer | list | pattern => simp [hget, Literal.boolean?] at h

/-! ## A word on one flag -/

theorem viewFact_insert_of_ne {α : Type} {wanted : Expected} {view : Literal → Option α}
    {default : α} (h : name ≠ key) (l : Literal) :
    viewFact wanted view default (facts.insert key l) name =
      viewFact wanted view default facts name := by
  rw [viewFact, viewFact, Dictionary.get?_insert_of_ne h]

theorem flagFact_insert_self (key : String) (b : Bool) :
    flagFact (facts.insert key (.boolean b)) key = .ok b := by
  rw [flagFact, viewFact, Dictionary.get?_insert_self]
  rfl

/-- The facts that are flags. -/
inductive Flag where
  | valgrind
  | xmllint
  | uclid
  | libatomic

/-- The name of the fact. -/
def Flag.fact : Flag → String
  | valgrind => "HAS_VALGRIND"
  | xmllint => "HAS_XMLLINT"
  | uclid => "HAS_UCLID"
  | libatomic => "NEEDS_LIBATOMIC"

/-- The configuration with another word on a flag, stated by other facts. -/
def withFlag (config : Config) (flag : Flag) (b : Bool) (facts : Dictionary Literal) : Config :=
  match flag with
  | .valgrind => { config with hasValgrind := b, facts }
  | .xmllint => { config with hasXmllint := b, facts }
  | .uclid => { config with hasUclid := b, facts }
  | .libatomic => { config with needsLibatomic := b, facts }

/-- **Facts that differ in the word on a flag** state configurations that differ in it. -/
theorem ofFacts_insert_flag (h : ofFacts facts toolchain cpus = .ok config) (flag : Flag)
    (b : Bool) :
    let facts' := facts.insert flag.fact (.boolean b)
    ofFacts facts' toolchain cpus = .ok (config.withFlag flag b facts') := by
  intro facts'
  obtain ⟨hcc, hcxx, hflags, hvalgrind, hxmllint, huclid, hlibatomic, -, hcpus, htoolchain⟩ :=
    ofFacts_eq_ok_iff.mp h
  -- the other facts are as before
  have hother : ∀ {α : Type} {wanted : Expected} {view : Literal → Option α} {default value : α}
      {name : String}, name ≠ flag.fact → viewFact wanted view default facts name = .ok value →
        viewFact wanted view default facts' name = .ok value := fun hne hvalue =>
    (viewFact_insert_of_ne hne _).trans hvalue
  have hself : flagFact facts' flag.fact = .ok b := flagFact_insert_self _ _
  apply ofFacts_eq_ok_iff.mpr
  cases flag with
  | valgrind =>
    exact ⟨hother (by decide) hcc, hother (by decide) hcxx, hother (by decide) hflags, hself,
      hother (by decide) hxmllint, hother (by decide) huclid, hother (by decide) hlibatomic, rfl,
      hcpus, htoolchain⟩
  | xmllint =>
    exact ⟨hother (by decide) hcc, hother (by decide) hcxx, hother (by decide) hflags,
      hother (by decide) hvalgrind, hself, hother (by decide) huclid, hother (by decide) hlibatomic,
      rfl, hcpus, htoolchain⟩
  | uclid =>
    exact ⟨hother (by decide) hcc, hother (by decide) hcxx, hother (by decide) hflags,
      hother (by decide) hvalgrind, hother (by decide) hxmllint, hself,
      hother (by decide) hlibatomic, rfl, hcpus, htoolchain⟩
  | libatomic =>
    exact ⟨hother (by decide) hcc, hother (by decide) hcxx, hother (by decide) hflags,
      hother (by decide) hvalgrind, hother (by decide) hxmllint, hother (by decide) huclid, hself,
      rfl, hcpus, htoolchain⟩

end Conformance.Config
