import Conformance.Dictionary
import Conformance.Directive
import Conformance.Literal.Printer
import Conformance.Toolchain

/-!
# Configuration

The facts about the machine that a run depends on, read once before any test. Every fact is passed
on to the processes of the run; the recognised ones must be of the right kind.

## Main definitions

* `Config`: the facts, with the recognised ones typed
* `Config.ofFacts`: the configuration that facts state
* `Config.environment`: the facts as environment variables
-/

namespace Conformance

/-- The facts that a run depends on. -/
structure Config where
  facts : Dictionary Literal
  cc : String
  cxx : String
  compilerFlags : List String
  hasValgrind : Bool
  hasXmllint : Bool
  hasUclid : Bool
  needsLibatomic : Bool
  /-- The number of processors, one at least. -/
  cpus : Nat
  toolchain : Toolchain

namespace Config

/-- A fact of the wrong kind. -/
structure Mismatch where
  name : String
  expected : Expected
  found : Literal.Kind
deriving DecidableEq

/-- The value of a fact as a view of literals sees it, or a default if it is not given. -/
def viewFact {α : Type} (wanted : Expected) (view : Literal → Option α) (default : α)
    (facts : Dictionary Literal) (name : String) : Except Mismatch α :=
  match facts.get? name with
  | none => .ok default
  | some v =>
    match view v with
    | some value => .ok value
    | none => .error ⟨name, wanted, v.kind⟩

/-- The value of a string fact, or a default if it is not given. -/
def stringFact (facts : Dictionary Literal) (name default : String) : Except Mismatch String :=
  viewFact .string Literal.string? default facts name

/-- The value of a list fact, empty if it is not given. -/
def listFact (facts : Dictionary Literal) (name : String) : Except Mismatch (List String) :=
  viewFact .list Literal.list? [] facts name

/-- The value of a boolean fact, false if it is not given. -/
def flagFact (facts : Dictionary Literal) (name : String) : Except Mismatch Bool :=
  viewFact .boolean Literal.boolean? false facts name

/-- The configuration that facts state. The first recognised fact of a wrong kind is reported. -/
def ofFacts (facts : Dictionary Literal) (toolchain : Toolchain) (cpus : Nat) :
    Except Mismatch Config := do
  let cc ← stringFact facts "CC" "cc"
  let cxx ← stringFact facts "CXX" "c++"
  let compilerFlags ← listFact facts "C_FLAGS"
  let hasValgrind ← flagFact facts "HAS_VALGRIND"
  let hasXmllint ← flagFact facts "HAS_XMLLINT"
  let hasUclid ← flagFact facts "HAS_UCLID"
  let needsLibatomic ← flagFact facts "NEEDS_LIBATOMIC"
  return { facts, cc, cxx, compilerFlags, hasValgrind, hasXmllint, hasUclid, needsLibatomic,
           cpus := max cpus 1, toolchain }

/-- The facts as environment variables, in ascending order of their names. -/
def environment (c : Config) : List (String × String) :=
  c.facts.map fun (name, value) => (name, value.exported)

end Config

end Conformance
