import Conformance.Glob
import Conformance.Fault

/-!
# Filters

A choice among jobs by their keys. A text that uses a character with a meaning in patterns but none
in globs is a pattern; any other text is a glob or, failing that, a pattern.

## Main definitions

* `Filter`: everything, a glob or a pattern
* `Filter.read`: the filter written as a text
* `Filter.selects`: a key is chosen
-/

namespace Conformance

/-- A choice among keys. -/
inductive Filter where
  | all
  | glob (g : Glob)
  | pattern (p : Pattern)

namespace Filter

/-- A character with a meaning in patterns but none in globs. -/
def isPatternOnly (c : Char) : Bool :=
  "^$()|+\\".toList.contains c

/-- The filter that a pattern makes. -/
def readPattern (text : String) : Except Fault Filter :=
  match Pattern.compile text with
  | .ok p => .ok (.pattern p)
  | .error reason => .error (.invalidFilter reason)

/-- The filter written as a text; without a text everything is chosen. -/
def read : Option String → Except Fault Filter
  | none => .ok .all
  | some text =>
    if text.toList.any isPatternOnly then readPattern text
    else match Glob.read? text.toList with
      | some g => .ok (.glob g)
      | none => readPattern text

/-- The key is chosen. -/
def selects : Filter → String → Bool
  | all, _ => true
  | glob g, key => g.matchesKey key
  | pattern p, key => p.foundIn key

@[simp] theorem selects_all (key : String) : all.selects key = true := rfl

@[simp] theorem read_none : read none = .ok .all := rfl

end Filter

end Conformance
