import Conformance.Shell.Arithmetic
import Conformance.Shell.Builtin
import Conformance.Shell.Wildcard

/-!
# Running scripts

Commands are run on a machine, one after the other: what runs side by side elsewhere runs here in the
order of a pipe. Of the `fuel` one unit is spent for every step into a part and for every round of a
loop; a script that runs out of it ends.

## Main definitions

* `Shell.expand`: the segments of a word
* `Shell.exec`: the effect of a command
* `Shell.start`: the effect of a program
-/

namespace Conformance.Shell

/-- The status of a process that ran out of fuel. -/
def exhausted (s : State) : Flow × State :=
  (.exit, s.withStatus 124)

/-- End the process behind a failure that nothing tests for, if it is to be so. -/
def settle (tested : Bool) : Flow × State → Flow × State
  | (.next, s) =>
    if s.own.options.stopsOnFailure && !tested && s.own.status != 0 then (.exit, s) else (.next, s)
  | r => r

/-- A text without line feeds at its end. -/
def withoutFinalNewlines (text : Octets) : Octets :=
  (text.reverse.dropWhile (· = '\n')).reverse

/-- The names among variables that a script can use. -/
def isVariableName (name : Octets) : Bool :=
  !name.isEmpty && nameAt name == name

/-- What a shell is asked to do. -/
structure ShellCall where
  /-- The first argument is the script itself. -/
  inline : Bool := false
  options : Options := {}
  args : List Octets := []

/-- What the arguments of a shell ask for. -/
def readShellCall : List Octets → ShellCall → ShellCall
  | ['-', '-'] :: rest, call => { call with args := rest }
  | ['-'] :: rest, call => { call with args := rest }
  | ('-' :: letters) :: rest, call =>
    readShellCall rest
      { call with
        inline := call.inline || letters.contains 'c'
        options := letters.foldl (fun o letter => o.set true letter) call.options }
  | args, call => { call with args }

/-- The directories in which a process looks for programs. -/
def State.searchPath (s : State) : String :=
  match s.own.value? "PATH".toList with
  | some places => Octets.toText places
  | none => Machine.standardPath

/-- What a shell says of a process that was ended by a signal. -/
def signalPhrase? : Nat → Option String
  | 1 => some "Hangup"
  | 3 => some "Quit"
  | 4 => some "Illegal instruction"
  | 5 => some "Trace/breakpoint trap"
  | 6 => some "Aborted"
  | 7 => some "Bus error"
  | 8 => some "Floating point exception"
  | 9 => some "Killed"
  | 10 => some "User defined signal 1"
  | 11 => some "Segmentation fault"
  | 12 => some "User defined signal 2"
  | 14 => some "Alarm clock"
  | 15 => some "Terminated"
  | _ => none

/-- The complaint of a shell about a program that cannot be started, and its status. -/
def refuse (s : State) (name : Octets) (refusal : Refusal) : State :=
  if refusal = .missing ∨ refusal = .notDirectory then
    (s.complainAt (name ++ ": not found".toList)).withStatus 127
  else (s.complainAt (name ++ ": ".toList ++ refusal.phrase.toList)).withStatus 126

/-- The settings in front of the arguments of `env`, and the others. -/
def takeSettings : List Octets → Process → List Octets × Process
  | [], p => ([], p)
  | arg :: args, p =>
    match assignment? arg with
    | some (name, value) => takeSettings args ((p.assign name value).exportVariable name)
    | none =>
      if arg = ['-', 'i'] then takeSettings args { p with bindings := [] }
      else (arg :: args, p)

/-- The parameter has no value, though it should have one. -/
def State.lacks (s : State) (name : Octets) : Bool :=
  s.own.options.demandsValues && (s.value? name).isNone && name != ['@'] && name != ['*']

/-- Complain of a parameter without a value. -/
def State.demand (s : State) (name : Octets) : List Segment × State :=
  ([], (s.complainAt (name ++ ": parameter not set".toList)).breakOff)

/-- Show a simple command, before it is run with other channels. -/
def State.show (s : State) (channels : List (Nat × Channel)) (names : List Octets)
    (fields : List Octets) : State :=
  if s.own.options.traces then
    let settings := names.map fun name => name ++ '=' :: (s.own.value? name).getD []
    let line := "+ ".toList ++ List.intercalate [' '] (settings ++ fields) ++ ['\n']
    let shown := { s with own := { s.own with channels } }.write 2 line
    { shown with own := s.own }
  else s

mutual

/-- The segments of a word. -/
def expand : (fuel : Nat) → List Piece → State → List Segment × State
  | 0, _, s => ([], s.breakOff)
  | _, [], s => ([], s)
  | n + 1, piece :: pieces, s =>
    let (first, s) := expandPiece n piece s
    if s.own.broken then ([], s)
    else
      let (more, s) := expand n pieces s
      (first ++ more, s)

/-- The segments of a piece. -/
def expandPiece : (fuel : Nat) → Piece → State → List Segment × State
  | 0, _, s => ([], s.breakOff)
  | n + 1, piece, s =>
    match piece with
    | .text text quoted => ([.kept text quoted], s)
    | .unknown => ([], (s.complainAt "Bad substitution".toList).breakOff)
    | .parameter name quoted =>
      if s.lacks name then s.demand name else (parameterSegments s name quoted, s)
    | .length name quoted =>
      if s.lacks name then s.demand name
      else ([.ofValue quoted (Octets.decimal ((s.value? name).getD []).length)], s)
    | .substitute name kind orEmpty word quoted =>
      let value := s.value? name
      let isMissing := value.isNone || orEmpty && value == some []
      let word (s : State) : List Segment × State :=
        let (segments, s) := expand n word s
        (if quoted then .kept [] true :: segments else segments.map Segment.loosen, s)
      match kind, isMissing with
      | .alternative, true => (if quoted then [.kept [] true] else [], s)
      | .alternative, false => word s
      | .default, true => word s
      | .assign, true =>
        let (segments, s) := word s
        let text := joined segments
        ([.ofValue quoted text], { s with own := s.own.assign name text })
      | .complain, true =>
        let (segments, s) := word s
        let text := joined segments
        let text := if text.isEmpty then "parameter not set".toList else text
        ([], (s.complainAt (name ++ ": ".toList ++ text)).breakOff)
      | _, false => (parameterSegments s name quoted, s)
    | .stripped name atEnd longest pattern quoted =>
      if s.lacks name then s.demand name
      else
        let (segments, s) := expand n pattern s
        let value := (s.value? name).getD []
        ([.ofValue quoted (strip atEnd longest (readWildcards (joinedPattern segments)) value)], s)
    | .output command quoted =>
      let (sink, machine) := s.machine.addSink
      let inner := { machine, own := s.own.connect 1 (.sink sink) }
      let (_, t) := apart n command inner
      ([.ofValue quoted (withoutFinalNewlines (t.machine.collected sink))],
        { machine := t.machine, own := { s.own with captured := t.own.status } })
    | .arithmetic expression quoted =>
      let (segments, s) := expand n expression s
      let expression := joined segments
      match Arithmetic.evaluate s.value? expression with
      | .ok (value, assigned) =>
        let own := assigned.foldr (fun (name, value) p =>
          p.assign name (Octets.decimal value.toInt)) s.own
        ([.ofValue quoted (Octets.decimal value.toInt)], { s with own })
      | .error mistake => ([], (s.complainAt (mistake.message expression)).breakOff)

/-- The fields of words. -/
def expandWords : (fuel : Nat) → List (List Piece) → State → List Octets × State
  | 0, _, s => ([], s.breakOff)
  | _, [], s => ([], s)
  | n + 1, word :: words, s =>
    let (segments, s) := expand n word s
    if s.own.broken then ([], s)
    else
      let fields := (fieldsOf s.separators segments).flatMap s.paths
      let (more, s) := expandWords n words s
      (fields ++ more, s)

/-- Carry out assignments, and pass the variables on if so wanted. -/
def assignAll : (fuel : Nat) → (exporting : Bool) → List (Octets × List Piece) → State → State
  | 0, _, _, s => s.breakOff
  | _, _, [], s => s
  | n + 1, exporting, (name, word) :: rest, s =>
    let (segments, s) := expand n word s
    let own := s.own.assign name (joined segments)
    let own := if exporting then own.exportVariable name else own
    assignAll n exporting rest { s with own }

/-- Carry out redirections, up to the first that is impossible. -/
def redirectAll : (fuel : Nat) → List Redirect → State → Bool × State
  | 0, _, s => (false, s)
  | _, [], s => (true, s)
  | n + 1, .mk descriptor kind target :: rest, s =>
    let (segments, s) := expand n target s
    match s.openChannel descriptor kind (joined segments) with
    | .ok s => redirectAll n rest s
    | .error complaint => (false, (s.complainAt complaint.toList).withStatus 2)

/-- Run a command without an effect on the process. -/
def apart : (fuel : Nat) → Command → State → Flow × State
  | 0, _, s => exhausted s
  | n + 1, command, s =>
    let (flow, t) := exec n false command
      { s with own := { s.own with traps := [], loops := 0 } }
    (match flow with
      | .killed signal => .killed signal
      | _ => .next, { machine := t.machine, own := { s.own with status := t.own.status } })

/-- Run a command; `tested` if something depends on its status. -/
def exec : (fuel : Nat) → (tested : Bool) → Command → State → Flow × State
  | 0, _, _, s => exhausted s
  | n + 1, tested, command, s =>
    match command with
    | .nothing => (.next, s)
    | .simple line assignments words redirects =>
      settle tested (execSimple n assignments words redirects
        { s with own := { s.own with line, captured := 0 } })
    | .sequence first second =>
      match exec n tested first s with
      | (.next, s) => exec n tested second s
      | r => r
    | .both first second =>
      match exec n true first s with
      | (.next, s) => if s.own.status = 0 then exec n tested second s else (.next, s)
      | r => r
    | .either first second =>
      match exec n true first s with
      | (.next, s) => if s.own.status = 0 then (.next, s) else exec n tested second s
      | r => r
    | .negation body =>
      match exec n true body s with
      | (.next, s) => (.next, s.withStatus (if s.own.status = 0 then 1 else 0))
      | r => r
    | .pipe first second => settle tested (execPipe n first second s)
    | .subshell body => settle tested (apart n body s)
    | .redirected body redirects =>
      match redirectAll n redirects s with
      | (false, t) => settle tested (.next, { t with own := { t.own with channels := s.own.channels } })
      | (true, t) =>
        let (flow, t) := exec n tested body t
        (flow, { t with own := { t.own with channels := s.own.channels } })
    | .branch condition yes no =>
      match exec n true condition s with
      | (.next, s) =>
        if s.own.status = 0 then exec n tested yes s else exec n tested no (s.withStatus 0)
      | r => r
    | .loop negated condition body =>
      let (flow, t) := execLoop n tested negated condition body 0
        { s with own := { s.own with loops := s.own.loops + 1 } }
      (flow, { t with own := { t.own with loops := s.own.loops } })
    | .each name words body =>
      let (values, s) := match words with
        | none => (s.own.args, s)
        | some words => expandWords n words s
      let (flow, t) := execEach n tested name body values
        { s with own := { s.own with loops := s.own.loops + 1, status := 0 } }
      (flow, { t with own := { t.own with loops := s.own.loops } })
    | .choice subject cases =>
      let (segments, s) := expand n subject s
      execCases n tested (joined segments) cases (s.withStatus 0)
    | .definition name body =>
      (.next, { s with own := { s.own with functions := (name, body) :: s.own.functions, status := 0 } })

/-- Run two commands of which the second reads what the first writes. -/
def execPipe : (fuel : Nat) → Command → Command → State → Flow × State
  | 0, _, _, s => exhausted s
  | n + 1, first, second, s =>
    let (sink, machine) := s.machine.addSink
    match apart n first { machine, own := s.own.connect 1 (.sink sink) } with
    | (.killed signal, t) => (.killed signal, { t with own := s.own })
    | (_, t) =>
      let (source, machine) := t.machine.addSource (t.machine.collected sink)
      let (flow, t) := apart n second { machine, own := s.own.connect 0 (.source source) }
      (flow, { t with own := { s.own with status := t.own.status } })

/-- Run the rounds of a loop, with the status of the last one so far. -/
def execLoop : (fuel : Nat) → (tested negated : Bool) → (condition body : Command) →
    (last : Nat) → State → Flow × State
  | 0, _, _, _, _, _, s => exhausted s
  | n + 1, tested, negated, condition, body, last, s =>
    match exec n true condition s with
    | (.next, s) =>
      if decide (s.own.status = 0) = negated then (.next, s.withStatus last)
      else
        match exec n tested body s with
        | (.next, s) => execLoop n tested negated condition body s.own.status s
        | (.leave loops, s) =>
          if loops ≤ 1 then (.next, s.withStatus 0) else (.leave (loops - 1), s)
        | (.again loops, s) =>
          if loops ≤ 1 then execLoop n tested negated condition body 0 s
          else (.again (loops - 1), s)
        | r => r
    | r => r

/-- Run a body for every value. -/
def execEach : (fuel : Nat) → (tested : Bool) → (name : Octets) → (body : Command) →
    List Octets → State → Flow × State
  | 0, _, _, _, _, s => exhausted s
  | _, _, _, _, [], s => (.next, s)
  | n + 1, tested, name, body, value :: values, s =>
    match exec n tested body { s with own := s.own.assign name value } with
    | (.next, s) => execEach n tested name body values s
    | (.leave loops, s) =>
      if loops ≤ 1 then (.next, s.withStatus 0) else (.leave (loops - 1), s)
    | (.again loops, s) =>
      if loops ≤ 1 then execEach n tested name body values s else (.again (loops - 1), s)
    | r => r

/-- Run the command of the first case that matches. -/
def execCases : (fuel : Nat) → (tested : Bool) → Octets → List (List (List Piece) × Command) →
    State → Flow × State
  | 0, _, _, _, s => exhausted s
  | _, _, _, [], s => (.next, s)
  | n + 1, tested, subject, (patterns, body) :: cases, s =>
    let (found, s) := matchesAny n subject patterns s
    if found then exec n tested body s else execCases n tested subject cases s

/-- Some pattern matches a text. -/
def matchesAny : (fuel : Nat) → Octets → List (List Piece) → State → Bool × State
  | 0, _, _, s => (false, s.breakOff)
  | _, _, [], s => (false, s)
  | n + 1, subject, pattern :: patterns, s =>
    let (segments, s) := expand n pattern s
    if matchesWildcards (readWildcards (joinedPattern segments)) subject then (true, s)
    else matchesAny n subject patterns s

/-- Run a simple command. -/
def execSimple : (fuel : Nat) → List (Octets × List Piece) → List (List Piece) →
    List Redirect → State → Flow × State
  | 0, _, _, _, s => exhausted s
  | n + 1, assignments, words, redirects, s =>
    let channels := s.own.channels
    let (fields, s) := expandWords n words s
    let (possible, t) := if s.own.broken then (false, s) else redirectAll n redirects s
    let restored (t : State) : State := { t with own := { t.own with channels } }
    let names := assignments.map Prod.fst
    if t.own.broken then (.exit, t.withStatus 2)
    else if !possible then (.next, restored t)
    else
      match fields with
      | [] =>
        let t := assignAll n false assignments t
        if t.own.broken then (.exit, t.withStatus 2)
        else (.next, (restored (t.show channels names [])).withStatus t.own.captured)
      | name :: args =>
        let t := assignAll n true assignments t
        if t.own.broken then (.exit, t.withStatus 2)
        else
          let (flow, u) := invoke n name args (t.show channels names fields)
          let own :=
            if specialNames.contains (String.ofList name) then u.own
            else u.own.restore s.own names
          let own :=
            if String.ofList name = "exec" then own else { own with channels }
          (flow, { u with own })

/-- Run the function, the builtin command or the program of a name. -/
def invoke : (fuel : Nat) → Octets → List Octets → State → Flow × State
  | 0, _, _, s => exhausted s
  | n + 1, name, args, s =>
    match s.own.functions.lookup name with
    | some body =>
      let (flow, t) := exec n false body { s with own := { s.own with args, locals := [] } }
      let own := t.own.restore s.own t.own.locals
      (match flow with
        | .back => .next
        | flow => flow, { t with own := { own with args := s.own.args, locals := s.own.locals } })
    | none =>
      match String.ofList name, args with
      | "eval", args => runWithin n "eval: ".toList (spaced args) (s.withStatus 0)
      | ".", path :: _ =>
        match s.content path with
        | .ok script => runWithin n (path ++ ": ".toList) script s
        | .error refusal =>
          (.exit, (s.complainAt (path ++ ": ".toList ++ refusal.phrase.toList)).withStatus 2)
      | "command", name :: args => invoke n name args s
      | "exec", [] => (.next, s.withStatus 0)
      | "exec", program :: args => replace n program args (s.calledBy "exec: ".toList)
      | word, args =>
        match builtin? word with
        | some run =>
          match run args (s.calledBy []) with
          | (.killed signal, t) =>
            let t := t.calledBy s.own.caller
            match t.own.traps.lookup signal with
            | none => (.killed signal, t)
            | some action => runScript n action (t.withStatus 0)
          | (flow, t) => (flow, t.calledBy s.own.caller)
        | none => spawn n name args s

/-- Run a program in a process of its own and wait for its end. -/
def spawn : (fuel : Nat) → Octets → List Octets → State → Flow × State
  | 0, _, _, s => exhausted s
  | n + 1, program, args, s =>
    let own := { s.own.successor s.own.name with caller := s.own.caller }
    match replace n program args { s with own } with
    | (.killed signal, t) =>
      let s : State := { machine := t.machine, own := { s.own with status := 128 + signal } }
      (.next, match signalPhrase? signal with
        | some phrase => s.complain phrase
        | none => s)
    | (_, t) => (.next, { machine := t.machine, own := { s.own with status := t.own.status } })

/-- Run a program in place of the script. -/
def replace : (fuel : Nat) → Octets → List Octets → State → Flow × State
  | 0, _, _, s => exhausted s
  | n + 1, program, args, s =>
    match s.machine.search s.own.directory s.searchPath (Octets.toText program) with
    | .error .badFormat => runShell n (program :: args) s
    | .error refusal => (.exit, refuse s program refusal)
    | .ok image =>
      start n image args { s with own := { s.own.successor program with id := s.own.id } }

/-- Run a program that was found. -/
def start : (fuel : Nat) → Machine.Image → List Octets → State → Flow × State
  | 0, _, _, s => exhausted s
  | n + 1, image, args, s =>
    let args := image.args ++ args
    match image.tool with
    | "sh" => runShell n args s
    | "dash" => runShell n args s
    | "env" =>
      let (args, own) := takeSettings args s.own
      match args with
      | [] =>
        let (status, s) := printenv [] { s with own }
        (.exit, s.withStatus status)
      | program :: args => replace n program args { s with own }
    | tool =>
      match tools.lookup tool with
      | some run =>
        let (status, s) := run args s
        (.exit, s.withStatus status)
      | none => (.exit, s.withStatus 127)

/-- Run a shell with its arguments. -/
def runShell : (fuel : Nat) → List Octets → State → Flow × State
  | 0, _, s => exhausted s
  | n + 1, args, s =>
    let call := readShellCall args {}
    let own := { s.own with
      line := 0
      bindings := s.own.bindings.filter fun v => isVariableName v.name
      caller := []
      options := call.options }
    let s := { s with own }
    let run (name : Octets) (args : List Octets) (script : Octets) (s : State) : Flow × State :=
      match runScript n script { s with own := { own with name, args } } with
      | (.killed signal, s) => (.killed signal, s)
      | (_, s) =>
        match s.own.traps.lookup 0 with
        | none => (.exit, s)
        | some action =>
          let (_, t) := runScript n action { s with own := { s.own with traps := [] } }
          (.exit, t.withStatus s.own.status)
    match call.inline, call.args with
    | true, [] => (.exit, (s.complainAt "-c requires an argument".toList).withStatus 2)
    | true, script :: [] => run own.name [] script s
    | true, script :: name :: args => run name args script s
    | false, [] =>
      let (script, s) := s.readAll 0
      run own.name [] script s
    | false, path :: args =>
      match s.content path with
      | .ok script => run path args script s
      | .error .missing =>
        (.exit, (s.complainAt ("cannot open ".toList ++ path ++ ": No such file".toList)).withStatus 2)
      | .error refusal =>
        (.exit, (s.complainAt ("cannot open ".toList ++ path ++ ": ".toList ++
          refusal.phrase.toList)).withStatus 2)

/-- Run a script within another one, with a label for complaints. -/
def runWithin : (fuel : Nat) → (label : Octets) → Octets → State → Flow × State
  | 0, _, _, s => exhausted s
  | n + 1, label, script, s =>
    let (flow, t) := runScript n script (s.calledBy label)
    (flow, t.calledBy s.own.caller)

/-- Run the lines of a script. -/
def runScript : (fuel : Nat) → Octets → State → Flow × State
  | 0, _, s => exhausted s
  | n + 1, script, s =>
    let (commands, mistake) := readScript script
    runLines n commands mistake s

/-- Run commands one after the other; behind them there may be a line that could not be read. -/
def runLines : (fuel : Nat) → List Command → Option Mistake → State → Flow × State
  | 0, _, _, s => exhausted s
  | _, [], none, s => (.next, s)
  | _, [], some mistake, s =>
    let s := { s with own := { s.own with line := mistake.line } }
    (.exit, (s.complainAt ("Syntax error: " ++ mistake.text).toList).withStatus 2)
  | n + 1, command :: commands, mistake, s =>
    match exec n false command s with
    | (.next, s) => runLines n commands mistake s
    | r => r

end

end Conformance.Shell
