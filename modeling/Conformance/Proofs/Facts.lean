import Conformance.Proofs.Configuration
import Conformance.Proofs.Expectations

/-!
# Facts of the right kinds

The facts that a configuration has a use for are looked at in a fixed order. Some facts state a
configuration exactly if each of these is of its kind, or is not stated; otherwise the first one
that is of another kind is complained about. All other facts are kept with the configuration, and
nothing else depends on them.

## Main definitions

* `Config.recognised`: the recognised facts in their order, and the kind of each
* `Config.Wrong`, `Config.FirstWrong`: the complaint about a fact that is not of its kind, and that
  about the first such fact
* `Config.Reflects`: a configuration has of every recognised fact its value, or the default

## Main results

* `Config.ofFacts_eq_ok_iff_reflects`: the configuration that facts state
* `Config.ofFacts_eq_error_iff`: what is complained about
* `Config.exists_ofFacts_eq_ok_iff`: when facts state a configuration
* `Config.ofFacts_congr`: facts that are not recognised do not matter
-/

namespace Conformance.Config

/-- **The recognised facts** in the order in which they are looked at, and what each has to be. -/
def recognised : List (String × Expected) :=
  [("CC", .string), ("CXX", .string), ("C_FLAGS", .list), ("HAS_VALGRIND", .boolean),
   ("HAS_XMLLINT", .boolean), ("HAS_UCLID", .boolean), ("NEEDS_LIBATOMIC", .boolean)]

/-- The fact is of its kind, if it is stated. -/
def OfKind (facts : Dictionary Literal) (fact : String × Expected) : Prop :=
  ∀ v, facts.get? fact.1 = some v → fact.2.Admits v

/-- The complaint about a fact that is not of its kind: it names the fact, what it has to be and
what it is. -/
def Wrong (facts : Dictionary Literal) (fact : String × Expected) (m : Mismatch) : Prop :=
  ∃ v, facts.get? fact.1 = some v ∧ ¬ fact.2.Admits v ∧ m = ⟨fact.1, fact.2, v.kind⟩

/-- **The complaint about the first fact that is not of its kind**, in some order. -/
def FirstWrong (facts : Dictionary Literal) (order : List (String × Expected)) (m : Mismatch) :
    Prop :=
  ∃ before fact after, order = before ++ fact :: after ∧ (∀ f ∈ before, OfKind facts f) ∧
    Wrong facts fact m

variable {facts facts' : Dictionary Literal} {fact : String × Expected}
  {order : List (String × Expected)} {m : Mismatch}

/-! ## The first fact that is not of its kind -/

theorem not_ofKind_iff_exists_wrong : ¬ OfKind facts fact ↔ ∃ m, Wrong facts fact m := by
  simp only [OfKind, not_forall]
  constructor
  · rintro ⟨v, hstated, hwrong⟩
    exact ⟨_, v, hstated, hwrong, rfl⟩
  · rintro ⟨-, v, hstated, hwrong, -⟩
    exact ⟨v, hstated, hwrong⟩

theorem not_firstWrong_nil : ¬ FirstWrong facts [] m := by
  simp [FirstWrong]

theorem firstWrong_cons_of_ofKind (h : OfKind facts fact) :
    FirstWrong facts (fact :: order) m ↔ FirstWrong facts order m := by
  have hfact : ¬ Wrong facts fact m := fun hwrong =>
    not_ofKind_iff_exists_wrong.mpr ⟨m, hwrong⟩ h
  rw [FirstWrong, exists_first_cons_iff, or_iff_right hfact, and_iff_right h, FirstWrong]

theorem firstWrong_cons_of_not_ofKind (h : ¬ OfKind facts fact) :
    FirstWrong facts (fact :: order) m ↔ Wrong facts fact m := by
  rw [FirstWrong, exists_first_cons_iff, or_iff_left fun hlater => h hlater.1]

/-- **There is a first fact that is not of its kind** exactly if there is one at all. -/
theorem exists_firstWrong_iff :
    (∃ m, FirstWrong facts order m) ↔ ¬ ∀ fact ∈ order, OfKind facts fact := by
  -- by induction on the facts that are still to be looked at
  induction order with
  | nil => simp [not_firstWrong_nil]
  | cons fact order ih =>
    by_cases h : OfKind facts fact
    · simp only [firstWrong_cons_of_ofKind h, ih, List.forall_mem_cons, h, true_and]
    · simp only [firstWrong_cons_of_not_ofKind h, List.forall_mem_cons, h, false_and, not_false_iff,
        iff_true]
      exact not_ofKind_iff_exists_wrong.mp h

/-- What is complained about depends on the facts that are looked at only. -/
theorem FirstWrong.congr (h : ∀ fact ∈ order, facts'.get? fact.1 = facts.get? fact.1)
    (hwrong : FirstWrong facts order m) : FirstWrong facts' order m := by
  obtain ⟨before, fact, after, rfl, hbefore, v, hstated, hv, rfl⟩ := hwrong
  obtain ⟨hsame, hfact, -⟩ := List.forall_mem_append.mp h |>.imp_right List.forall_mem_cons.mp
  refine ⟨before, fact, after, rfl, fun f hf v hv => ?_, v, ?_, hv, rfl⟩
  · exact hbefore f hf v (hsame f hf ▸ hv)
  · rw [hfact, hstated]

/-! ## One fact

Facts of every kind are read alike: as a view of literals sees the value, if there is one. -/

section Reader

variable {α β : Type}

/-- A value is what the fact states, or the default if it is not stated. -/
def Says (facts : Dictionary Literal) (name : String) (literal : α → Literal) (default value : α) :
    Prop :=
  facts.get? name = some (literal value) ∨ facts.get? name = none ∧ value = default

theorem viewFact_of_none {wanted : Expected} {view : Literal → Option α} {default : α}
    {name : String} (h : facts.get? name = none) :
    viewFact wanted view default facts name = .ok default := by
  rw [viewFact, h]

theorem viewFact_of_seen {wanted : Expected} {view : Literal → Option α} {default value : α}
    {name : String} {v : Literal} (h : facts.get? name = some v) (hv : view v = some value) :
    viewFact wanted view default facts name = .ok value := by
  simp only [viewFact, h, hv]

theorem viewFact_of_unseen {wanted : Expected} {view : Literal → Option α} {default : α}
    {name : String} {v : Literal} (h : facts.get? name = some v) (hv : view v = none) :
    viewFact wanted view default facts name = .error ⟨name, wanted, v.kind⟩ := by
  simp only [viewFact, h, hv]

variable {wanted : Expected} {view : Literal → Option α} {literal : α → Literal} {default : α}
  {name : String}

/-- **The value of a fact** is what the fact states, or the default. -/
theorem viewFact_eq_ok_iff (h : Views wanted view literal) {value : α} :
    viewFact wanted view default facts name = .ok value ↔
      Says facts name literal default value := by
  unfold Says
  cases hstated : facts.get? name with
  | none => simp [viewFact_of_none hstated, eq_comm]
  | some v =>
    rw [Option.some.injEq, ← h.eq_some_iff]
    cases hv : view v with
    | none => simp [viewFact_of_unseen hstated hv]
    | some value' => simp [viewFact_of_seen hstated hv]

/-- **A fact is complained about before those behind it.** -/
theorem viewFact_bind_eq_error_iff (h : Views wanted view literal)
    {next : α → Except Mismatch β}
    (hnext : ∀ value, next value = .error m ↔ FirstWrong facts order m) :
    viewFact wanted view default facts name >>= next = .error m ↔
      FirstWrong facts ((name, wanted) :: order) m := by
  cases hstated : facts.get? name with
  | none =>
    -- a fact that is not stated has the default, which is of its kind
    have hkind : OfKind facts (name, wanted) := by
      intro v hv
      rw [hstated] at hv
      contradiction
    rw [firstWrong_cons_of_ofKind hkind, viewFact_of_none hstated]
    exact hnext default
  | some v =>
    cases hv : view v with
    | none =>
      have hwrong : ¬ wanted.Admits v := h.eq_none_iff.mp hv
      have hkind : ¬ OfKind facts (name, wanted) := fun hkind => hwrong (hkind v hstated)
      rw [firstWrong_cons_of_not_ofKind hkind, viewFact_of_unseen hstated hv]
      constructor
      · intro herror
        exact ⟨v, hstated, hwrong, (Except.error.inj herror).symm⟩
      · rintro ⟨v', hstated', -, rfl⟩
        obtain rfl := Option.some.inj (hstated.symm.trans hstated')
        rfl
    | some value =>
      have hkind : OfKind facts (name, wanted) := by
        intro v' hv'
        obtain rfl := Option.some.inj (hstated.symm.trans hv')
        exact (h.admits_iff v).mpr ⟨value, (h.eq_some_iff v value).mp hv⟩
      rw [firstWrong_cons_of_ofKind hkind, viewFact_of_seen hstated hv]
      exact hnext value

end Reader

/-! ## All facts -/

variable {toolchain : Toolchain} {cpus : Nat} {config : Config}

/-- **A configuration has of every recognised fact its value**, or the default if it is not stated;
all facts are kept with it, recognised or not. -/
structure Reflects (config : Config) (facts : Dictionary Literal) (toolchain : Toolchain)
    (cpus : Nat) : Prop where
  cc : Says facts "CC" .string "cc" config.cc
  cxx : Says facts "CXX" .string "c++" config.cxx
  compilerFlags : Says facts "C_FLAGS" .list [] config.compilerFlags
  hasValgrind : Says facts "HAS_VALGRIND" .boolean false config.hasValgrind
  hasXmllint : Says facts "HAS_XMLLINT" .boolean false config.hasXmllint
  hasUclid : Says facts "HAS_UCLID" .boolean false config.hasUclid
  needsLibatomic : Says facts "NEEDS_LIBATOMIC" .boolean false config.needsLibatomic
  facts_eq : config.facts = facts
  cpus_eq : config.cpus = max cpus 1
  toolchain_eq : config.toolchain = toolchain

theorem Reflects.one_le_cpus (h : config.Reflects facts toolchain cpus) : 1 ≤ config.cpus :=
  h.cpus_eq ▸ le_max_right cpus 1

/-- Other facts are reflected as well by the configuration that keeps them, if they do not differ in
a recognised one. -/
theorem Reflects.withFacts (h : config.Reflects facts toolchain cpus)
    (hsame : ∀ fact ∈ recognised, facts'.get? fact.1 = facts.get? fact.1) :
    Reflects { config with facts := facts' } facts' toolchain cpus := by
  have hsays : ∀ {α : Type} {literal : α → Literal} {default value : α},
      ∀ fact ∈ recognised, Says facts fact.1 literal default value →
        Says facts' fact.1 literal default value := by
    intro α literal default value fact hfact hsays
    rwa [Says, hsame fact hfact]
  exact
    { cc := hsays ("CC", .string) (by simp [recognised]) h.cc
      cxx := hsays ("CXX", .string) (by simp [recognised]) h.cxx
      compilerFlags := hsays ("C_FLAGS", .list) (by simp [recognised]) h.compilerFlags
      hasValgrind := hsays ("HAS_VALGRIND", .boolean) (by simp [recognised]) h.hasValgrind
      hasXmllint := hsays ("HAS_XMLLINT", .boolean) (by simp [recognised]) h.hasXmllint
      hasUclid := hsays ("HAS_UCLID", .boolean) (by simp [recognised]) h.hasUclid
      needsLibatomic := hsays ("NEEDS_LIBATOMIC", .boolean) (by simp [recognised]) h.needsLibatomic
      facts_eq := rfl
      cpus_eq := h.cpus_eq
      toolchain_eq := h.toolchain_eq }

/-- **The configuration that facts state** reflects them. -/
theorem ofFacts_eq_ok_iff_reflects :
    ofFacts facts toolchain cpus = .ok config ↔ config.Reflects facts toolchain cpus := by
  simp only [ofFacts_eq_ok_iff, stringFact, listFact, flagFact, viewFact_eq_ok_iff views_string,
    viewFact_eq_ok_iff views_list, viewFact_eq_ok_iff views_boolean]
  constructor
  · rintro ⟨hcc, hcxx, hflags, hvalgrind, hxmllint, huclid, hlibatomic, hfacts, hcpus, htoolchain⟩
    exact ⟨hcc, hcxx, hflags, hvalgrind, hxmllint, huclid, hlibatomic, hfacts, hcpus, htoolchain⟩
  · rintro ⟨hcc, hcxx, hflags, hvalgrind, hxmllint, huclid, hlibatomic, hfacts, hcpus, htoolchain⟩
    exact ⟨hcc, hcxx, hflags, hvalgrind, hxmllint, huclid, hlibatomic, hfacts, hcpus, htoolchain⟩

/-- **The first recognised fact that is not of its kind is complained about.** -/
theorem ofFacts_eq_error_iff :
    ofFacts facts toolchain cpus = .error m ↔ FirstWrong facts recognised m := by
  simp only [ofFacts, recognised, stringFact, listFact, flagFact]
  -- the facts are read in their order, each by the reader of its kind
  refine viewFact_bind_eq_error_iff views_string fun cc => ?_
  refine viewFact_bind_eq_error_iff views_string fun cxx => ?_
  refine viewFact_bind_eq_error_iff views_list fun compilerFlags => ?_
  iterate 4 refine viewFact_bind_eq_error_iff views_boolean fun flag => ?_
  -- behind the last one nothing is left to complain about
  exact iff_of_false (by simp [pure, Except.pure]) not_firstWrong_nil

/-- **Facts state a configuration** exactly if every recognised one is of its kind. -/
theorem exists_ofFacts_eq_ok_iff :
    (∃ config, ofFacts facts toolchain cpus = .ok config) ↔
      ∀ fact ∈ recognised, OfKind facts fact := by
  have hwrong : ∀ m, FirstWrong facts recognised m ↔ ofFacts facts toolchain cpus = .error m :=
    fun _ => ofFacts_eq_error_iff.symm
  rw [← not_iff_not, ← exists_firstWrong_iff]
  simp only [hwrong]
  cases ofFacts facts toolchain cpus <;> simp

/-- **Facts that are not recognised do not matter**: they are kept, and that is all. -/
theorem ofFacts_congr (h : ∀ fact ∈ recognised, facts'.get? fact.1 = facts.get? fact.1) :
    ofFacts facts' toolchain cpus =
      (ofFacts facts toolchain cpus).map fun config => { config with facts := facts' } := by
  -- what is complained about, and what is reflected, is settled by the recognised facts alone
  cases hfacts : ofFacts facts toolchain cpus with
  | error m =>
    rw [ofFacts_eq_error_iff] at hfacts
    exact ofFacts_eq_error_iff.mpr (hfacts.congr h)
  | ok config =>
    rw [ofFacts_eq_ok_iff_reflects] at hfacts
    exact ofFacts_eq_ok_iff_reflects.mpr (hfacts.withFacts h)

end Conformance.Config
