import Conformance.Text.Split

/-!
# Paths

Paths are texts with slashes between their components. Empty components and single dots do not
count; two dots name the parent directory.

## Main definitions

* `Path.fileName?`: the last component
* `Path.extension?`: what stands behind the last dot of the last component
* `Path.join`: a path below another
-/

namespace Conformance

/-- A path, as text. -/
abbrev Path := String

namespace Path

/-- The components that count: not empty and not a single dot. -/
def components (path : List Char) : List (List Char) :=
  (Text.splitAt '/' path).filter fun s => s ≠ [] ∧ s ≠ ['.']

/-- The last component, unless it names a parent directory. -/
def lastName? (path : List Char) : Option (List Char) :=
  match (components path).getLast? with
  | some ['.', '.'] => none
  | last => last

/-- The name of the file that the path leads to. -/
def fileName? (path : Path) : Option String :=
  (lastName? path.toList).map String.ofList

/-- What stands behind the last dot of a name. A name has no extension if it has no dot, or none but
at its start. -/
def nameExtension? (name : List Char) : Option (List Char) :=
  let behind := (name.reverse.takeWhile (· ≠ '.')).reverse
  let before := (name.reverse.dropWhile (· ≠ '.')).drop 1
  if before.isEmpty then none else some behind

/-- The extension of the file that the path leads to. -/
def extension? (path : Path) : Option String :=
  ((lastName? path.toList).bind nameExtension?).map String.ofList

/-- The path of `sub` below `base`; an absolute `sub` stands alone. -/
def join (base sub : Path) : Path :=
  match sub.toList.head?, base.toList.getLast? with
  | some '/', _ => sub
  | _, none => sub
  | _, some '/' => base ++ sub
  | _, some _ => base ++ "/" ++ sub

end Path

end Conformance
