import Conformance.Run

/-!
# Discovery

The catalog and the configuration as they are found on a host. What stands directly inside a
directory is looked at in ascending order of names. Files that may be executed are test programs,
files with the extension `m` are models; files that may be executed in the directory of probes state
one fact each.

## Main definitions

* `Catalog.discover`: the catalog of a directory of tests
* `runProbes`: the facts that the probes of a directory state
* `Config.discover`: the configuration that the probes of a directory state
-/

namespace Conformance

/-- A name in a directory with what it stands for. -/
abbrev DirEntry := String × Node

/-- The entries of a directory in ascending order of their names. -/
def sortedEntries (entries : List DirEntry) : List DirEntry :=
  entries.mergeSort fun a b => a.1 ≤ b.1

/-- The directory at a path, if there is one. -/
def FileTree.listing? (t : FileTree) (current : Place) (path : Path) : Option (List DirEntry) :=
  let place := Place.ofPath current path
  if t.isDirectory place then some (t.children place) else none

/-! ## Tests -/

/-- The extension of models. -/
def modelExtension : String := "m"

/-- The permission of the owner to read. -/
def ownerMayRead (mode : Nat) : Bool :=
  mode &&& 0o400 != 0

/-- A model with the given bytes and permissions. -/
def TestInput.load (path : Path) (content : Bytes) (mode : Nat) : Except Fault TestInput :=
  if ownerMayRead mode then ofSource path (Text.decodeLossy content)
  else .error (.unreadable "Permission denied (os error 13)")

namespace Catalog

/-- Add the test program at a path, if the node there may be executed. -/
def addProgram (c : Catalog) (path : Path) (node : Node) : Except Fault Catalog :=
  if node.isExecutable then c.register .executable (testName path) (.executable path) else .ok c

/-- Add the model at a path, if it has the extension of models. -/
def addModel (c : Catalog) (path : Path) (content : Bytes) (mode : Nat) :
    Except Fault Catalog :=
  if Path.extension? path = some modelExtension then
    match TestInput.load path content mode with
    | .error fault => .error fault
    | .ok input =>
      match c.registerModel (testName path) input with
      | (c, none) => .ok c
      | (_, some fault) => .error fault
  else .ok c

/-- Add the jobs of one entry of the directory `root`. -/
def addEntry (c : Catalog) (root : Path) (entry : DirEntry) : Except Fault Catalog :=
  match entry with
  | (_, .directory) => .ok c
  | (name, .file content mode) =>
    let path := Path.join root name
    match c.addProgram path (.file content mode) with
    | .error fault => .error fault
    | .ok c => c.addModel path content mode

/-- Add the jobs of some entries of the directory `root`, up to the first fault. -/
def addEntries (root : Path) : Catalog → List DirEntry → Except Fault Catalog
  | c, [] => .ok c
  | c, entry :: entries =>
    match c.addEntry root entry with
    | .error fault => .error fault
    | .ok c => addEntries root c entries

/-- The catalog of the directory `root`, of which the entries are given if it exists. -/
def discover (root : Path) (entries : Option (List DirEntry)) : Except Fault Catalog :=
  match entries with
  | none => .error (.missingDirectory root)
  | some entries => addEntries root empty (sortedEntries entries)

end Catalog

/-! ## Probes -/

variable {σ : Type}

/-- The fact that a probe states by its answer. -/
def probeFact (path : Path) (answer : Except SpawnFailure Output) : Except Fault Literal :=
  match answer with
  | .error failure => .error (.probe path (.notStarted failure.reason))
  | .ok o =>
    if o.exitCode ≠ 0 then
      .error (.probe path (.unsuccessful o.exitCode
        (String.ofList (Text.trim o.stderr.toList))))
    else
      let output := Text.trim o.stdout.toList
      match Literal.parseChars output with
      | .ok v => .ok v
      | .error e => .error (.probe path (.malformed (String.ofList output) e))

/-- Run the probes among some entries of the directory `dir`, up to the first fault, and add the
facts that they state. -/
def runProbes (runner : Runner σ) (dir : Path) :
    Dictionary Literal → List DirEntry → World σ → Performance (Dictionary Literal) σ
  | facts, [], w => ⟨.ok facts, [], w⟩
  | facts, (name, node) :: entries, w =>
    if node.isExecutable then
      let path := Path.join dir name
      let call : Invocation := { program := path }
      let (answer, w) := runner.run call [] w
      match probeFact path answer with
      | .error fault => ⟨.error fault, [⟨call, [], answer⟩], w⟩
      | .ok v =>
        let rest := runProbes runner dir (facts.insert name v) entries w
        { rest with exchanges := ⟨call, [], answer⟩ :: rest.exchanges }
    else runProbes runner dir facts entries w

namespace Config

/-- A fact of the wrong kind, as a fault. -/
def Mismatch.fault (m : Mismatch) : Fault :=
  .probe m.name (.wrongKind m.expected m.found)

/-- The configuration that facts state. -/
def build (facts : Dictionary Literal) (toolchain : Toolchain) (cpus : Nat) :
    Except Fault Config :=
  match ofFacts facts toolchain cpus with
  | .ok config => .ok config
  | .error m => .error m.fault

/-- The configuration that the probes of the directory `dir` state, of which the entries are given
if it exists. Without the directory there are no facts. -/
def discover (runner : Runner σ) (dir : Path) (entries : Option (List DirEntry))
    (toolchain : Toolchain) (cpus : Nat) (w : World σ) : Performance Config σ :=
  let p := runProbes runner dir [] (sortedEntries (entries.getD [])) w
  match p.result with
  | .error fault => ⟨.error fault, p.exchanges, p.world⟩
  | .ok facts => ⟨build facts toolchain cpus, p.exchanges, p.world⟩

end Config

end Conformance
