import Conformance.Path
import Conformance.Text.Utf8

/-!
# File trees

The files and directories of a host, as a finite list of places. A place is the sequence of names
that leads to it from the root; links are not modelled.

## Main definitions

* `FileTree`: places with what is there
* `FileTree.find?`, `FileTree.put`, `FileTree.removeTree`: one place
* `FileTree.children`: what is directly inside a directory
* `FileTree.freshDirectory`: a place where nothing is yet
-/

namespace Conformance

/-- A place in a file tree: the names that lead to it from the root. -/
abbrev Place := List String

/-- The place that a path leads to from a current directory. -/
def Place.ofPath (current : Place) (path : Path) : Place :=
  let start := if path.toList.head? = some '/' then [] else current
  (Path.components path.toList).foldl
    (fun at' name => if name = ['.', '.'] then at'.dropLast else at' ++ [String.ofList name]) start

/-- What a place holds. -/
inductive Node where
  | directory
  /-- A file with its bytes and its permission bits. -/
  | file (content : Bytes) (mode : Nat)
deriving DecidableEq, Repr

/-- The permission to execute, for anyone. -/
def Node.isExecutable : Node → Bool
  | directory => false
  | file _ mode => mode &&& 0o111 != 0

/-- Places with what they hold. -/
structure FileTree where
  nodes : List (Place × Node) := []
deriving DecidableEq, Repr

namespace FileTree

/-- What a place holds. The root is always a directory. -/
def find? (t : FileTree) (p : Place) : Option Node :=
  if p = [] then some .directory else t.nodes.lookup p

/-- The place holds a directory. -/
def isDirectory (t : FileTree) (p : Place) : Bool :=
  t.find? p == some .directory

/-- Let a place hold a node, whatever it held before. -/
def put (t : FileTree) (p : Place) (node : Node) : FileTree :=
  if (t.nodes.lookup p).isSome then
    ⟨t.nodes.map fun e => if e.1 = p then (p, node) else e⟩
  else ⟨t.nodes ++ [(p, node)]⟩

/-- Remove a place and everything below it. -/
def removeTree (t : FileTree) (p : Place) : FileTree :=
  ⟨t.nodes.filter fun e => !p.isPrefixOf e.1⟩

/-- Add the directories above a place that are not there yet. -/
def withParents (t : FileTree) (p : Place) : FileTree :=
  ((List.range p.length).drop 1).foldl
    (fun t n => if (t.find? (p.take n)).isSome then t else t.put (p.take n) .directory) t

/-- The names directly inside a place, with what they hold. -/
def children (t : FileTree) (p : Place) : List (String × Node) :=
  t.nodes.filterMap fun (q, node) =>
    match q.getLast? with
    | some name => if q.dropLast = p then some (name, node) else none
    | none => none

/-- The files below a place, with their bytes. -/
def filesBelow (t : FileTree) (p : Place) : List (Place × Bytes) :=
  t.nodes.filterMap fun (q, node) =>
    match node with
    | .directory => none
    | .file content _ => if p.isPrefixOf q then some (q, content) else none

/-- The permission bits of a new file. -/
def newFileMode : Nat := 0o644

/-- Write a text into a file, which keeps its permission bits if it is there already. -/
def write (t : FileTree) (p : Place) (content : Bytes) : FileTree :=
  match t.find? p with
  | some (.file _ mode) => t.put p (.file content mode)
  | _ => t.put p (.file content newFileMode)

/-- Something is at a place or below it. -/
def occupied (t : FileTree) (p : Place) : Bool :=
  t.nodes.any fun e => p.isPrefixOf e.1

/-- The names for scratch directories. -/
def scratchName (n : Nat) : String :=
  "rumur-harness-" ++ toString n

/-- The name of the first scratch directory of which nothing is there yet. -/
def freshName (t : FileTree) (parent : Place) : String :=
  scratchName (((List.range (t.nodes.length + 1)).find? fun n =>
    !t.occupied (parent ++ [scratchName n])).getD t.nodes.length)

end FileTree

end Conformance
