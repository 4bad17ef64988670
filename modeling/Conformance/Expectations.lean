import Conformance.Directive
import Conformance.Dictionary

/-!
# Expectations

What the directives of a test input say about its run: the exit statuses and the output to expect,
the flags to use, a reason to skip it. Of several directives with one key the last one counts, but
every one of them must be of the right kind.

## Main definitions

* `Expectations`: the expectations, with their defaults
* `Expectations.ofDirectives`: the expectations that directives state
* `Expectations.parse`: the expectations stated at the head of a text
-/

namespace Conformance

/-- The expectations for one test input. -/
structure Expectations where
  /-- Further arguments of the generator. -/
  generatorFlags : List String := []
  /-- The exit status of the generator. -/
  generatorStatus : Int32 := 0
  /-- Compiler flags that replace all others. -/
  compilerFlags : Option (List String) := none
  /-- Linker flags that replace all others. -/
  linkerFlags : Option (List String) := none
  /-- The exit status of the C compiler. -/
  compilerStatus : Int32 := 0
  /-- The exit status of the compiled checker. -/
  checkerStatus : Int32 := 0
  /-- A pattern that the output of the compiled checker must contain. -/
  checkerOutput : Option Pattern := none
  /-- Why the input is to be skipped. -/
  skipReason : Option String := none
  /-- The directives with other keys. -/
  extra : Dictionary Literal := []
deriving DecidableEq

namespace Directive

/-- The complaint that the value is not what the key wants. -/
def mismatch (d : Directive) (expected : Expected) : Error :=
  ⟨d.line, .wrongKind d.key expected d.value.kind⟩

/-- The value as a view of literals sees it. -/
def viewed {α : Type} (d : Directive) (wanted : Expected) (view : Literal → Option α) :
    Except Error α :=
  match view d.value with
  | some value => .ok value
  | none => .error (d.mismatch wanted)

/-- The value as a list of strings. -/
def list (d : Directive) : Except Error (List String) :=
  d.viewed .list Literal.list?

/-- The value as a string. -/
def string (d : Directive) : Except Error String :=
  d.viewed .string Literal.string?

/-- The value as a pattern. -/
def pattern (d : Directive) : Except Error Pattern :=
  d.viewed .pattern Literal.pattern?

/-- An integer that fits into 32 bits. -/
def exitCode? (n : Int64) : Option Int32 :=
  if Int32.minValue.toInt ≤ n.toInt ∧ n.toInt ≤ Int32.maxValue.toInt then
    some (Int32.ofInt n.toInt)
  else none

/-- The value as an exit status. -/
def exitCode (d : Directive) : Except Error Int32 :=
  match d.value.integer? with
  | none => .error (d.mismatch .integer)
  | some n =>
    match exitCode? n with
    | some code => .ok code
    | none => .error (d.mismatch .exitStatus)

end Directive

namespace Expectations

/-- Take one more directive into account. -/
def add (e : Expectations) (d : Directive) : Except Directive.Error Expectations :=
  match d.key with
  | "rumur_flags" => d.list.map fun flags => { e with generatorFlags := flags }
  | "rumur_exit_code" => d.exitCode.map fun code => { e with generatorStatus := code }
  | "c_flags" => d.list.map fun flags => { e with compilerFlags := some flags }
  | "ld_flags" => d.list.map fun flags => { e with linkerFlags := some flags }
  | "c_exit_code" => d.exitCode.map fun code => { e with compilerStatus := code }
  | "checker_exit_code" => d.exitCode.map fun code => { e with checkerStatus := code }
  | "checker_output" => d.pattern.map fun p => { e with checkerOutput := some p }
  | "skip_reason" => d.string.map fun reason => { e with skipReason := some reason }
  | key => .ok { e with extra := e.extra.insert key d.value }

/-- Take further directives into account, one after the other. -/
def addAll (e : Expectations) : List Directive → Except Directive.Error Expectations
  | [] => .ok e
  | d :: rest =>
    match e.add d with
    | .error err => .error err
    | .ok e => e.addAll rest

/-- The expectations that directives state. -/
def ofDirectives (directives : List Directive) : Except Directive.Error Expectations :=
  addAll {} directives

/-- The expectations stated at the head of a text. -/
def parse (text : String) : Except Directive.Error Expectations :=
  match Directive.parse text with
  | .error err => .error err
  | .ok directives => ofDirectives directives

@[simp] theorem addAll_nil (e : Expectations) : e.addAll [] = .ok e := rfl

end Expectations

end Conformance
