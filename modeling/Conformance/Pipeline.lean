import Conformance.Job
import Conformance.Procedure
import Conformance.Verdict

/-!
# The stages of a job

What is run for a job and how its outputs settle the verdict. The stages of a tool run strictly one
after the other, and the first outcome that is not the expected one ends the job. Each stage uses
what the stage before it left: a file in the scratch directory, or the text of its output.

## Main definitions

* `Job.procedure`: the stages of a job in a scratch directory
* `Job.perform`: the performance of a job, with a scratch directory that it removes
-/

namespace Conformance

/-- Go on with a procedure unless the verdict is settled. -/
def Progress.andThen (p : Progress) (next : Procedure Verdict) : Procedure Verdict :=
  match p with
  | .proceed => next
  | .finished verdict => .done verdict

/-- A success passes; any other exit is a failure of validation. -/
def checkValidation (headline : String) (o : Output) : Verdict :=
  if o.exitCode = 0 then .pass else .failed .validation headline o

/-- The invocation that validates XML against a schema. -/
def validateXml (config : Config) (schema : Path) (content : String) : Invocation :=
  { program := config.toolchain.xmllint
    args := ["--relaxng", schema, "--noout", "-"]
    stdin := some content }

namespace Job

/-! ## Generated checkers -/

/-- The invocation of the generator. -/
def generate (job : Job) (config : Config) (v : Variant) (modelC : Path) : Invocation :=
  { program := config.toolchain.rumur
    args := v.generatorArgs job.input.path modelC config.cpus
      job.input.expectations.generatorFlags
    instrument := true }

/-- The invocation of the C compiler on a generated checker. -/
def compileChecker (job : Job) (config : Config) (v : Variant) (modelC modelExe : Path) :
    Invocation :=
  { program := config.cc
    args := v.compileFlags config job.input.expectations ++ ["-o", modelExe, modelC] ++
      linkFlags config job.input.expectations }

/-- The output of a checker lacks the pattern that it should contain. -/
def outputMismatch? (job : Job) (o : Output) : Option Verdict :=
  match job.input.expectations.checkerOutput with
  | none => none
  | some p =>
    if p.foundIn o.stdout then none
    else some (.failed .outputMismatch ("checker output did not match /" ++ p.source ++ "/") o)

/-- The output of a checker is XML and is to be validated. A model that prints text of its own
interleaves it with the XML. -/
def wantsValidation (job : Job) (v : Variant) : Bool :=
  v.isXml && !Text.containsWord job.input.source "put"

/-- The validation of the output of a checker. -/
def validateChecker (job : Job) (config : Config) (v : Variant) (o : Output) :
    Procedure Verdict :=
  if job.wantsValidation v then
    if config.hasXmllint then
      .run (validateXml config config.toolchain.verifierSchema o.stdout) fun validated =>
        .done (checkValidation "failed to XML-validate machine reachable output" validated)
    else .done (.skip "xmllint not available")
  else .done .pass

/-- Generate a checker, compile it, run it and validate its output. -/
def checkerProcedure (job : Job) (config : Config) (v : Variant) (scratch : Path) :
    Procedure Verdict :=
  let modelC := Path.join scratch "model.c"
  let modelExe := Path.join scratch "model.exe"
  .run (job.generate config v modelC) fun generated =>
    (checkExit "rumur" generated job.input.expectations.generatorStatus).andThen <|
  .run (job.compileChecker config v modelC modelExe) fun compiled =>
    (checkExit "C compiler" compiled job.input.expectations.compilerStatus).andThen <|
  .run { program := modelExe } fun checked =>
    match checkStatus "checker" checked job.input.expectations.checkerStatus with
    | some failure => .done failure
    | none =>
      match job.outputMismatch? checked with
      | some failure => .done failure
      | none => job.validateChecker config v checked

/-! ## Converters -/

/-- The invocation of a converter. -/
def convertCall (job : Job) (program : Path) (flags : List String) : Invocation :=
  { program, args := flags ++ [job.input.path], instrument := true }

/-- Run a converter and go on with its output. -/
def convert (job : Job) (stage : String) (program : Path) (flags : List String)
    (next : Output → Procedure Verdict) : Procedure Verdict :=
  .run (job.convertCall program flags) fun o =>
    (checkConversion stage o (job.input.expectations.generatorStatus != 0)
      (job.tool.unsupported? job.input.source)).andThen (next o)

/-- The invocation of the C compiler on a converted model. -/
def compileConverted (config : Config) (source object : Path) : Invocation :=
  { program := config.cc, args := config.compilerFlags ++ ["-c", "-o", object, source] }

/-- Convert a model to C and compile it. -/
def sourceProcedure (job : Job) (config : Config) (scratch : Path) : Procedure Verdict :=
  job.convert "murphi2c" config.toolchain.murphi2c [] fun converted =>
    .write "model.c" converted.stdout <|
    .run (compileConverted config (Path.join scratch "model.c") (Path.join scratch "model.o"))
      fun compiled =>
        (checkExit "C compiler" compiled job.input.expectations.compilerStatus).andThen <|
          .done .pass

/-- A program that includes a header and does nothing. -/
def headerProgram (header : Path) : String :=
  "#include \"" ++ header ++ "\"\nint main(void) \x7b return 0; \x7d\n"

/-- The invocation of the C compiler on a program that includes a header. -/
def compileHeaderC (config : Config) (header target : Path) : Invocation :=
  { program := config.cc
    args := config.compilerFlags ++ ["-o", target, "-x", "c", "-"]
    stdin := some (headerProgram header) }

/-- The invocation of the C++ compiler on a program that includes a header. -/
def compileHeaderCxx (config : Config) (header target : Path) : Invocation :=
  { program := config.cxx
    args := ["-std=c++11", "-o", target, "-x", "c++", "-", "-Werror=format",
      "-Werror=sign-compare", "-Werror=type-limits"]
    stdin := some (headerProgram header) }

/-- Convert a model to a C header and compile a program that includes it, as C and as C++. -/
def headerProcedure (job : Job) (config : Config) (scratch : Path) : Procedure Verdict :=
  let header := Path.join scratch "header.h"
  job.convert "murphi2c --header" config.toolchain.murphi2c ["--header"] fun converted =>
    .write "header.h" converted.stdout <|
    .run (compileHeaderC config header (Path.join scratch "header-c.out")) fun compiledC =>
      (checkExit "C compiler" compiledC 0).andThen <|
    .run (compileHeaderCxx config header (Path.join scratch "header-cxx.out")) fun compiledCxx =>
      (checkExit "C++ compiler" compiledCxx 0).andThen <|
        .done .pass

/-- Convert a model to Uclid5 and have it verified, if there is a verifier. -/
def uclidProcedure (job : Job) (config : Config) (scratch : Path) : Procedure Verdict :=
  job.convert "murphi2uclid" config.toolchain.murphi2uclid [] fun converted =>
    if config.hasUclid then
      .write "source.ucl" converted.stdout <|
      .run { program := config.toolchain.uclid, args := [Path.join scratch "source.ucl"] }
        fun verified => .done (checkValidation "uclid failed" verified)
    else .done (.skip "uclid not available for validation")

/-- Convert a model to XML and have it validated, if there is a validator. -/
def xmlProcedure (job : Job) (config : Config) : Procedure Verdict :=
  job.convert "murphi2xml" config.toolchain.murphi2xml [] fun converted =>
    if config.hasXmllint then
      .run (validateXml config config.toolchain.murphi2xmlSchema converted.stdout)
        fun validated => .done (checkValidation "failed to validate" validated)
    else .done (.skip "xmllint not available for validation")

/-- Run a test program. -/
def executableProcedure (job : Job) : Procedure Verdict :=
  .run { program := job.input.path } fun o => .done (classifyExecutable o)

/-! ## Whole jobs -/

/-- The stages of a job in a scratch directory. -/
def procedure (job : Job) (config : Config) (scratch : Path) : Procedure Verdict :=
  match job.tool with
  | .executable => job.executableProcedure
  | .checker v => job.checkerProcedure config v scratch
  | .murphi2c => job.sourceProcedure config scratch
  | .murphi2cHeader => job.headerProcedure config scratch
  | .murphi2uclid => job.uclidProcedure config scratch
  | .murphi2xml => job.xmlProcedure config

/-- The directory in which scratch directories are made. -/
def scratchParent : Place := ["tmp"]

/-- The text of an absolute place. -/
def placePath (p : Place) : Path :=
  String.join (p.map ("/" ++ ·))

/-- Perform a procedure in a scratch directory that exists only meanwhile. -/
def inScratch {σ : Type} (runner : Runner σ) (config : Config) (stages : Path → Procedure Verdict)
    (w : World σ) : Performance Verdict σ :=
  let scratch := scratchParent ++ [w.files.freshName scratchParent]
  let p := (stages (placePath scratch)).perform runner config scratch
    { w with files := w.files.put scratch .directory }
  { p with world := { p.world with files := p.world.files.removeTree scratch } }

/-- Perform a job. A test program needs no scratch directory, and neither does a model that is to be
skipped. -/
def perform {σ : Type} (runner : Runner σ) (config : Config) (job : Job) (w : World σ) :
    Performance Verdict σ :=
  if job.tool = .executable then
    job.executableProcedure.perform runner config [] w
  else match job.input.expectations.skipReason with
    | some reason => ⟨.ok (.skip reason), [], w⟩
    | none => inScratch runner config (job.procedure config) w

end Job

end Conformance
