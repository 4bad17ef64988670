import Conformance.Discovery

/-!
# The command line

Two commands over a directory of tests: `list` prints the keys of the chosen jobs, `run` performs
them and prints a report. Nothing is printed on standard output before everything that can go wrong
has gone well.

## Main definitions

* `Command`: the commands with their options
* `Command.parse?`: the command that arguments name
* `CommandLine.perform`: the effect of some arguments on a host
-/

namespace Conformance

/-- What both commands take. -/
structure CommonOptions where
  root : Path := "."
  filter : Option String := none
  /-- Write lines of tracing to standard error. Nothing else depends on it. -/
  trace : Bool := false
deriving DecidableEq, Repr

/-- What `run` takes. -/
structure RunOptions extends CommonOptions where
  configDir : Option Path := none
  json : Bool := false
  /-- Programs and schemas by the names of their options. -/
  tools : List (String × Path) := []
deriving DecidableEq, Repr

/-- The commands. -/
inductive Command where
  | run (options : RunOptions)
  | list (options : CommonOptions)
deriving DecidableEq, Repr

namespace Toolchain

/-- The toolchain with the program or schema of one option replaced. -/
def set (t : Toolchain) (option : String) (path : Path) : Toolchain :=
  match option with
  | "--rumur" => { t with rumur := path }
  | "--murphi2c" => { t with murphi2c := path }
  | "--murphi2uclid" => { t with murphi2uclid := path }
  | "--murphi2xml" => { t with murphi2xml := path }
  | "--valgrind" => { t with valgrind := path }
  | "--xmllint" => { t with xmllint := path }
  | "--uclid" => { t with uclid := path }
  | "--verifier-schema" => { t with verifierSchema := path }
  | "--murphi2xml-schema" => { t with murphi2xmlSchema := path }
  | _ => t

/-- The options that replace a program or schema. -/
def options : List String :=
  ["--rumur", "--murphi2c", "--murphi2uclid", "--murphi2xml", "--valgrind", "--xmllint",
   "--uclid", "--verifier-schema", "--murphi2xml-schema"]

end Toolchain

namespace Command

/-! ## Arguments -/

/-- What the options of a command are: those with a value, and flags. -/
structure Grammar where
  valued : List String
  flags : List String

/-- The options of `list`. -/
def listGrammar : Grammar :=
  ⟨["--root", "--filter"], ["--trace"]⟩

/-- The options of `run`. -/
def runGrammar : Grammar :=
  ⟨["--root", "--filter", "--config-dir"] ++ Toolchain.options, ["--trace", "--json"]⟩

/-- An argument as an option and the value attached to it by an equals sign. -/
def splitOption (arg : String) : String × Option String :=
  let name := arg.toList.takeWhile (· ≠ '=')
  match arg.toList.drop name.length with
  | [] => (arg, none)
  | _ :: value => (String.ofList name, some (String.ofList value))

/-- An argument that cannot be the value of the option before it. -/
def looksLikeOption (arg : String) : Bool :=
  arg.toList.head? == some '-' && arg != "-"

/-- Only the value of a filter may be empty. -/
def acceptsValue (option value : String) : Bool :=
  option == "--filter" || value != ""

/-- The options that arguments give, each at most once. Of `fuel` one unit is spent per option. -/
def readOptions (g : Grammar) : (fuel : Nat) → (given : List (String × String)) →
    List String → Option (List (String × String))
  | 0, _, _ => none
  | fuel + 1, given, args =>
    match args with
    | [] => some given
    | ["--"] => some given
    | arg :: rest =>
      let (option, attached) := splitOption arg
      if (given.lookup option).isSome then none
      else if g.flags.contains option then
        if attached.isSome then none else readOptions g fuel (given ++ [(option, "")]) rest
      else if g.valued.contains option then
        match attached, rest with
        | some value, rest =>
          if acceptsValue option value then
            readOptions g fuel (given ++ [(option, value)]) rest
          else none
        | none, value :: rest =>
          if acceptsValue option value && !looksLikeOption value then
            readOptions g fuel (given ++ [(option, value)]) rest
          else none
        | none, [] => none
      else none

/-- The options of both commands. -/
def commonOptions (given : List (String × String)) : CommonOptions :=
  { root := (given.lookup "--root").getD "."
    filter := given.lookup "--filter"
    trace := (given.lookup "--trace").isSome }

/-- The command that arguments name. -/
def parse? (args : List String) : Option Command :=
  match args with
  | "list" :: rest =>
    (readOptions listGrammar (rest.length + 1) [] rest).map fun given =>
      .list (commonOptions given)
  | "run" :: rest =>
    (readOptions runGrammar (rest.length + 1) [] rest).map fun given =>
      .run { commonOptions given with
        configDir := given.lookup "--config-dir"
        json := (given.lookup "--json").isSome
        tools := given.filter fun e => Toolchain.options.contains e.1 }
  | _ => none

end Command

namespace CommandLine

/-! ## Effects -/

variable {σ : Type}

/-- A host: what starts its processes, its number of processors, and the current directory. -/
structure Host (σ : Type) where
  runner : Runner σ
  cpus : Nat := 1
  current : Place := []

/-- What a command prints and its exit status. -/
structure Effect where
  status : Nat
  stdout : String := ""
  /-- What is on standard error besides the lines of tracing. -/
  stderr : String := ""
deriving DecidableEq, Repr

/-- The effect of a fault. -/
def failure (context : String) (fault : Fault) : Effect :=
  { status := 1, stderr := "error: " ++ context ++ fault.chain ++ "\n" }

/-- What is said of arguments that name no command. -/
def usage : String :=
  "usage: list [OPTIONS] | run [OPTIONS]\n"

/-- The toolchain of a run. -/
def toolchain (o : RunOptions) : Toolchain :=
  o.tools.foldl (fun t e => t.set e.1 e.2) (Toolchain.forRoot o.root)

/-- The directory of the probes of a run. -/
def probeDir (o : RunOptions) : Path :=
  o.configDir.getD (Path.join o.root "config")

/-- The filter and the catalog that options name, or the effect of the fault in them. -/
def prepare (host : Host σ) (o : CommonOptions) (files : FileTree) :
    Except Effect (Filter × Catalog) :=
  match Filter.read o.filter with
  | .error fault => .error (failure "" fault)
  | .ok filter =>
    match Catalog.discover o.root (files.listing? host.current o.root) with
    | .error fault => .error (failure ("failed to load tests from " ++ o.root ++ ": ") fault)
    | .ok catalog => .ok (filter, catalog)

/-- The effect of `list`. -/
def list (host : Host σ) (o : CommonOptions) (w : World σ) : Effect × World σ :=
  match prepare host o w.files with
  | .error effect => (effect, w)
  | .ok (filter, catalog) =>
    ({ status := 0
       stdout := String.join ((catalog.jobs filter).map fun job => job.key ++ "\n") }, w)

/-- The effect of a finished run. -/
def reportEffect (json : Bool) (r : Report) : Effect :=
  { status := if r.summary.hasFailures then 1 else 0
    stdout := if json then r.json else r.human }

/-- The effect of `run`. -/
def run (host : Host σ) (o : RunOptions) (w : World σ) : Effect × World σ :=
  match prepare host o.toCommonOptions w.files with
  | .error effect => (effect, w)
  | .ok (filter, catalog) =>
    let dir := probeDir o
    let probed := Config.discover host.runner dir (w.files.listing? host.current dir)
      (toolchain o) host.cpus w
    match probed.result with
    | .error fault =>
      (failure ("failed to probe configuration in " ++ dir ++ ": ") fault, probed.world)
    | .ok config =>
      let p := catalog.run host.runner config filter probed.world
      match p.result with
      | .error fault => (failure "" fault, p.world)
      | .ok report => (reportEffect o.json report, p.world)

/-- The effect of some arguments. -/
def perform (host : Host σ) (args : List String) (w : World σ) : Effect × World σ :=
  match Command.parse? args with
  | none => ({ status := 2, stderr := usage }, w)
  | some (.list o) => list host o w
  | some (.run o) => run host o w

end CommandLine

end Conformance
