import Conformance.Config
import Conformance.Expectations

/-!
# Variants of the checker

The ways a checker can be generated and built: with debugging output, optimised, with several
threads, with machine-readable output.

## Main definitions

* `Variant`: a choice on each of the four axes
* `Variant.registered`: the variants that every model is run in
* `Variant.generatorArgs`, `Variant.compileFlags`: what a variant asks of the generator and of the
  compiler
* `linkFlags`: what is linked to a compiled checker
-/

namespace Conformance

/-- The form of a checker's output. -/
inductive OutputFormat where
  | text
  | machineReadable
deriving DecidableEq, Repr

/-- A choice on each axis of the variants. -/
structure Variant where
  debug : Bool
  optimised : Bool
  multithreaded : Bool
  format : OutputFormat
deriving DecidableEq, Repr

namespace Variant

/-- The variants that every model is run in. Debugging output is never combined with
machine-readable output. -/
def registered : List Variant :=
  [⟨false, false, false, .text⟩,
   ⟨true, false, false, .text⟩,
   ⟨false, true, false, .text⟩,
   ⟨true, true, false, .text⟩,
   ⟨false, false, true, .text⟩,
   ⟨true, false, true, .text⟩,
   ⟨false, true, true, .text⟩,
   ⟨true, true, true, .text⟩,
   ⟨false, false, false, .machineReadable⟩,
   ⟨false, true, false, .machineReadable⟩,
   ⟨false, false, true, .machineReadable⟩,
   ⟨false, true, true, .machineReadable⟩]

/-- The output is XML. -/
def isXml (v : Variant) : Bool :=
  v.format == .machineReadable

/-- The name of the suite of a variant, with a word for every axis. -/
def suiteName (v : Variant) : String :=
  "checker" ++ (if v.debug then "_debug" else "") ++ (if v.optimised then "_optimised" else "") ++
    (if v.multithreaded then "_multithreaded" else "_single_threaded") ++
    (if v.isXml then "_xml" else "")

/-- The number of threads to ask for: one without multithreading, and two where a single processor
would otherwise leave it unused. -/
def threadArgs (v : Variant) (cpus : Nat) : List String :=
  if v.multithreaded then
    if cpus = 1 then ["--threads", "2"] else []
  else ["--threads", "1"]

/-- The arguments of the generator. The flags of the test input come last, so that they win. -/
def generatorArgs (v : Variant) (input output : Path) (cpus : Nat) (extra : List String) :
    List String :=
  ["--output", output, input] ++
    (if v.debug then ["--debug"] else []) ++
    (if v.isXml then ["--output-format", "machine-readable"] else []) ++
    v.threadArgs cpus ++ extra

/-- The compiler flags of a generated checker, unless the test input replaces them. -/
def compileFlags (v : Variant) (config : Config) (e : Expectations) : List String :=
  match e.compilerFlags with
  | some flags => flags
  | none => config.compilerFlags ++ (if v.optimised then ["-O3"] else [])

end Variant

/-- The linker flags of a compiled checker, unless the test input replaces them. -/
def linkFlags (config : Config) (e : Expectations) : List String :=
  match e.linkerFlags with
  | some flags => flags
  | none => "-lpthread" :: (if config.needsLibatomic then ["-latomic"] else [])

end Conformance
