import Conformance.Json
import Conformance.Variant

/-!
# Variants as JSON

## Main definitions

* `Variant.toJson`, `Variant.ofJson?`: a variant as a JSON value, and back
-/

namespace Conformance

/-- The word for a form of output. -/
def OutputFormat.tag : OutputFormat → String
  | text => "text"
  | machineReadable => "machine_readable"

/-- The form of output of a word. -/
def OutputFormat.ofTag? : String → Option OutputFormat
  | "text" => some text
  | "machine_readable" => some machineReadable
  | _ => none

namespace Variant

/-- A variant as a JSON object. -/
def toJson (v : Variant) : Json :=
  .object [("debug", .boolean v.debug), ("optimised", .boolean v.optimised),
    ("multithreaded", .boolean v.multithreaded), ("format", .string v.format.tag)]

/-- The variant with the given parts. -/
def ofParts? (debug optimised multithreaded format : Json) : Option Variant := do
  let debug ← debug.boolean?
  let optimised ← optimised.boolean?
  let multithreaded ← multithreaded.boolean?
  let format ← OutputFormat.ofTag? (← format.tag?)
  some ⟨debug, optimised, multithreaded, format⟩

/-- The variant that a JSON object shows, or an array of its parts in order. Further members of an
object do not count. -/
def ofJson? : Json → Option Variant
  | .array [debug, optimised, multithreaded, format] =>
    ofParts? debug optimised multithreaded format
  | j => do
    ofParts? (← j.member? "debug") (← j.member? "optimised") (← j.member? "multithreaded")
      (← j.member? "format")

theorem ofJson?_toJson (v : Variant) : ofJson? v.toJson = some v := by
  obtain ⟨d, o, m, f⟩ := v
  cases f <;> rfl

end Variant

end Conformance
