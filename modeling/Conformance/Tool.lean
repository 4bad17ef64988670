import Conformance.Variant
import Conformance.Text.WholeWord

/-!
# Tools

What a test input is run through: the input itself, a generated checker, or a converter.

## Main definitions

* `Tool`: the tools
* `Tool.models`: the tools that every model is run through
* `Tool.unsupported?`: what a model contains that a converter cannot express
-/

namespace Conformance

/-- What a test input is run through. -/
inductive Tool where
  /-- The input is a program and is run as it is. -/
  | executable
  /-- A checker is generated, compiled and run. -/
  | checker (variant : Variant)
  /-- The model is converted to C. -/
  | murphi2c
  /-- The model is converted to a C header. -/
  | murphi2cHeader
  /-- The model is converted to Uclid5. -/
  | murphi2uclid
  /-- The model is converted to XML. -/
  | murphi2xml
deriving DecidableEq, Repr

namespace Tool

/-- The name of the suite of a tool. -/
def suiteName : Tool → String
  | executable => "executable"
  | checker v => v.suiteName
  | murphi2c => "murphi2c"
  | murphi2cHeader => "murphi2c_header"
  | murphi2uclid => "murphi2uclid"
  | murphi2xml => "murphi2xml"

/-- The tools that every model is run through, in the order of their suites. -/
def models : List Tool :=
  Variant.registered.map checker ++ [murphi2c, murphi2cHeader, murphi2uclid, murphi2xml]

/-- What the source of a model contains that the target of a converter cannot express. -/
def unsupported? (tool : Tool) (source : String) : Option String :=
  match tool with
  | murphi2c | murphi2cHeader =>
    if Text.containsWord source "isundefined" then some "isundefined, which has no C equivalent"
    else none
  | murphi2uclid =>
    if source.toList.contains '%' then some "the modulo operator, which Uclid5 lacks" else none
  | executable | checker _ | murphi2xml => none

end Tool

end Conformance
