import Conformance.Shell.Machine
import Conformance.Shell.Wildcard

/-!
# Paths that match a pattern

The paths on a machine that match a pattern, component by component. A name that begins with a dot
matches only a component that does so too.

## Main definitions

* `Shell.isPattern`: a text has an effect as a pattern
* `Shell.matchingPaths`: the paths that match, in order
-/

namespace Conformance.Shell

/-- The byte that an element stands for, if there is only one. -/
def Wildcard.literal? : Wildcard → Option Char
  | literal c => some c
  | _ => none

/-- The text has an element that is not literal. -/
def isPattern (pattern : Octets) : Bool :=
  (readWildcards pattern).any fun w => w.literal?.isNone

/-- A path that was found, and the place that it leads to. -/
structure Found where
  text : Octets
  place : Place

/-- The paths that go on behind a path with a component that matches. -/
def Found.goOn (m : Machine) (f : Found) (component : Octets) : List Found :=
  let pattern := readWildcards component
  let enter (name : Octets) : List Found :=
    if name.isEmpty || name == ['.'] then [{ f with text := f.text ++ name }]
    else
      match m.enter f.place (Octets.toText name) with
      | .ok place => if (m.node? place).isSome then [⟨f.text ++ name, place⟩] else []
      | .error _ => []
  match pattern.mapM Wildcard.literal? with
  | some name => enter name
  | none =>
    let hidden := pattern.head? == some (.literal '.')
    let names := (m.files.children f.place).map fun (name, _) => Octets.ofText name
    (names.filter fun name =>
      matchesWildcards pattern name && (hidden || name.head? != some '.')).flatMap enter

/-- The paths that match a pattern, seen from a directory. -/
def matchingPaths (m : Machine) (directory : Place) (pattern : Octets) : List Octets :=
  let (start, components) : List Found × List Octets :=
    match Text.splitAt '/' pattern with
    | [] :: c :: rest => ([⟨[], []⟩], c :: rest)
    | c :: rest => (Found.goOn m ⟨[], directory⟩ c, rest)
    | [] => ([], [])
  let found := components.foldl (fun found component =>
    found.flatMap fun f => Found.goOn m { f with text := f.text ++ ['/'] } component) start
  (found.map Found.text).mergeSort fun a b => String.ofList a ≤ String.ofList b

end Conformance.Shell
