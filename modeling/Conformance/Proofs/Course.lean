import Conformance.Pipeline

/-!
# The course of a chain of stages

A job is a chain of stages that run strictly one after the other. A stage may use the standard
output of the stage before it, and its own output lets the chain go on or settles the verdict. The
course of a chain is read off the answers of the runner alone: whatever the runner keeps in its
state, a performance exchanges with it what the course says and ends as the course says.

## Main definitions

* `Stage`, `Stage.chain`: a stage, and the procedure of some stages
* `Course config stages before xs r`: along the exchanges `xs` the stages come to the result `r`
* `Ran xs n call o`: the process `call` was the `n`-th of the exchanges `xs` and left the output `o`

## Main results

* `Stage.course_perform`: every performance of a chain is a course of it
* `Course.call_eq`: the `n`-th exchange is the call of the `n`-th stage
* `Course.lt_length_iff`: a later stage is run exactly if the one before it lets the chain go on
-/

namespace Conformance

variable {α σ : Type}

/-- One stage of a chain. -/
structure Stage where
  /-- The file that is first given the standard output of the stage before. -/
  file? : Option String := none
  /-- What is run, given the standard output of the stage before. -/
  call : String → Invocation
  /-- What the output means for the chain. -/
  check : Output → Progress

namespace Stage

/-- The procedure of the stages of a chain, given the standard output of the stage before. A chain
that ends without a verdict passes. -/
def chain : List Stage → String → Procedure Verdict
  | [], _ => .done .pass
  | s :: rest, before =>
    let step := .run (s.call before) fun o => (s.check o).andThen (chain rest o.stdout)
    match s.file? with
    | some name => .write name before step
    | none => step

end Stage

/-- The exchange in which an invocation gets an answer. -/
def Config.exchange (config : Config) (i : Invocation) (answer : Except SpawnFailure Output) :
    Exchange :=
  ⟨config.prepare i, config.environment, answer⟩

@[simp] theorem Config.interpret_stdout (config : Config) (i : Invocation) (o : Output) :
    (config.interpret i o).stdout = o.stdout := rfl

@[simp] theorem Config.interpret_exitCode (config : Config) (i : Invocation) (o : Output) :
    (config.interpret i o).exitCode = o.exitCode := rfl

theorem Config.interpret_memoryViolation (config : Config) (i : Invocation) (o : Output) :
    (config.interpret i o).memoryViolation = true ↔
      i.instrument = true ∧ config.hasValgrind = true ∧ o.exitCode = violationStatus := by
  simp [interpret, wraps, and_assoc]

/-- The output of a process that no memory checker watched. -/
def Output.unwatched (o : Output) : Output :=
  { o with memoryViolation := false }

@[simp] theorem Output.unwatched_exitCode (o : Output) : o.unwatched.exitCode = o.exitCode := rfl

@[simp] theorem Output.unwatched_stdout (o : Output) : o.unwatched.stdout = o.stdout := rfl

@[simp] theorem Output.unwatched_memoryViolation (o : Output) :
    o.unwatched.memoryViolation = false := rfl

/-- Only an instrumented invocation can be wrapped. -/
theorem Config.prepare_of_not_instrument (config : Config) {i : Invocation}
    (h : i.instrument = false) : config.prepare i = i := by
  simp [prepare, wraps, h]

theorem Config.interpret_of_not_instrument (config : Config) {i : Invocation}
    (h : i.instrument = false) (o : Output) : config.interpret i o = o.unwatched := by
  simp [interpret, wraps, h, Output.unwatched]

/-- **The course of a chain.** Along the exchanges, the stages come to a result: the first process
that cannot be started ends the chain with a fault, and the first output that settles the verdict
ends it with that verdict. -/
inductive Course (config : Config) :
    List Stage → String → List Exchange → Except Fault Verdict → Prop
  | passed (before : String) : Course config [] before [] (.ok .pass)
  | unstarted (s : Stage) (rest : List Stage) (before : String) (failure : SpawnFailure) :
    Course config (s :: rest) before [config.exchange (s.call before) (.error failure)]
      (.error (.spawn failure))
  | settled {s : Stage} {before : String} {o : Output} {verdict : Verdict} (rest : List Stage)
    (h : s.check (config.interpret (s.call before) o) = .finished verdict) :
    Course config (s :: rest) before [config.exchange (s.call before) (.ok o)] (.ok verdict)
  | onward {s : Stage} {rest : List Stage} {before : String} {o : Output} {xs : List Exchange}
    {r : Except Fault Verdict} (h : s.check (config.interpret (s.call before) o) = .proceed)
    (next : Course config rest o.stdout xs r) :
    Course config (s :: rest) before (config.exchange (s.call before) (.ok o) :: xs) r

/-! ## Performances are courses -/

theorem Procedure.perform_run_error {runner : Runner σ} {config : Config} {call : Invocation}
    {w w' : World σ} {failure : SpawnFailure} (scratch : Place) (next : Output → Procedure α)
    (h : runner.run (config.prepare call) config.environment w = (.error failure, w')) :
    (run call next).perform runner config scratch w =
      ⟨.error (.spawn failure), [config.exchange call (.error failure)], w'⟩ := by
  simp [perform, h, Config.exchange]

theorem Procedure.perform_run_ok {runner : Runner σ} {config : Config} {call : Invocation}
    {w w' : World σ} {o : Output} (scratch : Place) (next : Output → Procedure α)
    (h : runner.run (config.prepare call) config.environment w = (.ok o, w')) :
    (run call next).perform runner config scratch w =
      { (next (config.interpret call o)).perform runner config scratch w' with
        exchanges := config.exchange call (.ok o) ::
          ((next (config.interpret call o)).perform runner config scratch w').exchanges } := by
  simp [perform, h, Config.exchange]

/-- The world in which the process of a stage is run: the file of the stage is written. -/
def Stage.enter (s : Stage) (scratch : Place) (before : String) (w : World σ) : World σ :=
  match s.file? with
  | some name => { w with files := w.files.write (scratch ++ [name]) (Text.encode before) }
  | none => w

theorem Stage.perform_cons (runner : Runner σ) (config : Config) (scratch : Place) (s : Stage)
    (rest : List Stage) (before : String) (w : World σ) :
    (chain (s :: rest) before).perform runner config scratch w =
      (Procedure.run (s.call before) fun o =>
        (s.check o).andThen (chain rest o.stdout)).perform runner config scratch
          (s.enter scratch before w) := by
  rw [chain, enter]
  cases s.file? <;> rfl

@[simp] theorem Stage.enter_state (s : Stage) (scratch : Place) (before : String) (w : World σ) :
    (s.enter scratch before w).state = w.state := by
  unfold enter
  cases s.file? <;> rfl

/-- Every performance of a chain is a course of it, whatever the runner does. -/
theorem Stage.course_perform (runner : Runner σ) (config : Config) (scratch : Place)
    (stages : List Stage) (before : String) (w : World σ) :
    Course config stages before ((chain stages before).perform runner config scratch w).exchanges
      ((chain stages before).perform runner config scratch w).result := by
  induction stages generalizing before w with
  | nil => exact .passed before
  | cons s rest ih =>
    rw [perform_cons]
    rcases hrun : runner.run (config.prepare (s.call before)) config.environment
      (s.enter scratch before w) with ⟨answer, w'⟩
    cases answer with
    | error failure =>
      rw [Procedure.perform_run_error scratch _ hrun]
      exact .unstarted s rest before failure
    | ok o =>
      rw [Procedure.perform_run_ok scratch _ hrun]
      cases hcheck : s.check (config.interpret (s.call before) o) with
      | finished verdict => exact .settled rest hcheck
      | proceed => exact .onward hcheck (ih o.stdout w')

/-- The runner that gives the answers in its state one after the other, and behind them empty
outputs of processes that succeed. -/
def Runner.ofAnswers : Runner (List (Except SpawnFailure Output)) where
  run _ _ w :=
    match w.state with
    | [] => (.ok {}, w)
    | answer :: rest => (answer, { w with state := rest })

/-- The world without files in which these answers are due. -/
def World.answering (answers : List (Except SpawnFailure Output)) :
    World (List (Except SpawnFailure Output)) :=
  ⟨{}, answers⟩

/-! ## What a course exchanges -/

/-- The process `call` was run as the `n`-th, counted from zero, and left the output `o`. -/
def Ran (xs : List Exchange) (n : Nat) (call : Invocation) (o : Output) : Prop :=
  ∃ x, xs[n]? = some x ∧ x.call = call ∧ x.answer = .ok o

@[simp] theorem ran_nil (n : Nat) (call : Invocation) (o : Output) : ¬ Ran [] n call o := by
  rintro ⟨x, hx, -⟩
  simp at hx

@[simp] theorem ran_exchange_zero (config : Config) (i : Invocation)
    (answer : Except SpawnFailure Output) (xs : List Exchange) (call : Invocation) (o : Output) :
    Ran (config.exchange i answer :: xs) 0 call o ↔ config.prepare i = call ∧ answer = .ok o := by
  simp [Ran, Config.exchange]

@[simp] theorem ran_cons_succ (x : Exchange) (xs : List Exchange) (n : Nat) (call : Invocation)
    (o : Output) : Ran (x :: xs) (n + 1) call o ↔ Ran xs n call o := by
  simp [Ran]

theorem ran_tail (xs : List Exchange) (n : Nat) (call : Invocation) (o : Output) :
    Ran xs.tail n call o ↔ Ran xs (n + 1) call o := by
  cases xs <;> simp

/-- The standard output of a process that could be started. -/
def Exchange.stdout? (x : Exchange) : Option String :=
  match x.answer with
  | .ok o => some o.stdout
  | .error _ => none

/-- The standard output of the process before the `n`-th; the first has `before` for it. -/
def stdoutBefore (before : String) (xs : List Exchange) : Nat → String
  | 0 => before
  | n + 1 => (xs[n]?.bind Exchange.stdout?).getD ""

theorem stdoutBefore_cons_succ (config : Config) (i : Invocation) (o : Output)
    (before : String) (xs : List Exchange) (n : Nat) :
    stdoutBefore before (config.exchange i (.ok o) :: xs) (n + 1) =
      stdoutBefore o.stdout xs n := by
  cases n <;> simp [stdoutBefore, Config.exchange, Exchange.stdout?]

namespace Course

variable {config : Config} {s : Stage} {stages rest : List Stage} {before : String}
  {xs : List Exchange} {r : Except Fault Verdict}

theorem eq_nil_iff (h : Course config stages before xs r) : xs = [] ↔ stages = [] := by
  cases h <;> simp

/-- No stage is run twice. -/
theorem length_le (h : Course config stages before xs r) : xs.length ≤ stages.length := by
  induction h with
  | passed => exact Nat.le_refl 0
  | unstarted => exact Nat.succ_le_succ (Nat.zero_le _)
  | settled => exact Nat.succ_le_succ (Nat.zero_le _)
  | onward _ _ ih => exact Nat.succ_le_succ ih

/-- The `n`-th exchange is the call of the `n`-th stage. -/
theorem call_eq (h : Course config stages before xs r) {n : Nat} {x : Exchange}
    (hx : xs[n]? = some x) :
    ∃ s, stages[n]? = some s ∧ x.call = config.prepare (s.call (stdoutBefore before xs n)) := by
  -- behind the first exchange, what was on standard output before is that of the first process
  induction h generalizing n with
  | passed => simp at hx
  | unstarted s rest before failure =>
    obtain ⟨rfl, rfl⟩ : n = 0 ∧ _ = x := by simpa [List.getElem?_singleton] using hx
    exact ⟨s, rfl, rfl⟩
  | @settled s before o verdict rest hcheck =>
    obtain ⟨rfl, rfl⟩ : n = 0 ∧ _ = x := by simpa [List.getElem?_singleton] using hx
    exact ⟨s, rfl, rfl⟩
  | @onward s rest before o xs r hcheck next ih =>
    cases n with
    | zero =>
      obtain rfl : _ = x := by simpa using hx
      exact ⟨s, rfl, rfl⟩
    | succ n =>
      rw [stdoutBefore_cons_succ]
      exact ih (by simpa using hx)

/-- **A later stage is run exactly if the one before it lets the chain go on.** -/
theorem lt_length_iff (h : Course config stages before xs r) (n : Nat) :
    n + 1 < xs.length ↔ n + 1 < stages.length ∧ ∃ s x o, stages[n]? = some s ∧
      xs[n]? = some x ∧ x.answer = .ok o ∧
      s.check (config.interpret (s.call (stdoutBefore before xs n)) o) = .proceed := by
  -- only an onward course has a second exchange, and its rest answers for the later ones
  induction h generalizing n with
  | passed => simp
  | unstarted s rest before failure => cases n <;> simp [Config.exchange]
  | settled rest hcheck => cases n <;> simp_all [Config.exchange, stdoutBefore]
  | @onward s rest before o xs r hcheck next ih =>
    cases n with
    | zero =>
      have hlen : 0 < xs.length ↔ 0 < rest.length := by
        simpa [List.length_pos_iff] using not_congr next.eq_nil_iff
      simp [Config.exchange, stdoutBefore, hcheck, hlen]
    | succ n => simpa [stdoutBefore_cons_succ] using ih n

/-- **The verdict of a chain** is settled by its first stage, or by the others after the first has
let the chain go on. -/
theorem eq_ok_iff (h : Course config (s :: rest) before xs r) (v : Verdict)
    {Later : Output → List Exchange → Prop}
    (later : ∀ o xs, Course config rest o.stdout xs r → (r = .ok v ↔ Later o xs)) :
    r = .ok v ↔ ∃ o, Ran xs 0 (config.prepare (s.call before)) o ∧
      (s.check (config.interpret (s.call before) o) = .finished v ∨
        s.check (config.interpret (s.call before) o) = .proceed ∧ Later o xs.tail) := by
  cases h with
  | unstarted s rest before failure => simp
  | settled rest hcheck => simp [hcheck]
  | onward hcheck next => simp [hcheck, later _ _ next]

/-- The same for a stage that no memory checker watches. -/
theorem eq_ok_iff_of_not_instrument (h : Course config (s :: rest) before xs r)
    (hi : (s.call before).instrument = false) (v : Verdict)
    {Later : Output → List Exchange → Prop}
    (later : ∀ o xs, Course config rest o.stdout xs r → (r = .ok v ↔ Later o xs)) :
    r = .ok v ↔ ∃ o, Ran xs 0 (s.call before) o ∧
      (s.check o.unwatched = .finished v ∨
        s.check o.unwatched = .proceed ∧ Later o xs.tail) := by
  simpa only [config.prepare_of_not_instrument hi, config.interpret_of_not_instrument hi]
    using h.eq_ok_iff v later

/-- A stage that settles the verdict is the last to be run. -/
theorem settled_at (h : Course config stages before xs r) {n : Nat} {s : Stage}
    {call : Invocation} {o : Output} (hs : stages[n]? = some s) (ran : Ran xs n call o)
    {v : Verdict}
    (hcheck : s.check (config.interpret (s.call (stdoutBefore before xs n)) o) = .finished v) :
    r = .ok v ∧ xs.length = n + 1 := by
  induction h generalizing n with
  | passed => simp at hs
  | unstarted t rest before failure => cases n <;> simp at ran
  | @settled t before o' verdict rest hsettled =>
    cases n with
    | zero =>
      obtain ⟨-, ⟨⟩⟩ := (ran_exchange_zero ..).mp ran
      obtain rfl : t = s := by simpa using hs
      rw [stdoutBefore, hsettled, Progress.finished.injEq] at hcheck
      exact ⟨congrArg _ hcheck, rfl⟩
    | succ n => simp at ran
  | @onward t rest before o' xs r honward next ih =>
    cases n with
    | zero =>
      obtain ⟨-, ⟨⟩⟩ := (ran_exchange_zero ..).mp ran
      obtain rfl : t = s := by simpa using hs
      rw [stdoutBefore, honward] at hcheck
      contradiction
    | succ n =>
      rw [stdoutBefore_cons_succ] at hcheck
      have hrest := ih (by simpa using hs) ((ran_cons_succ ..).mp ran) hcheck
      exact ⟨hrest.1, by rw [List.length_cons, hrest.2]⟩

/-- A verdict other than a pass is that of the last stage that was run. -/
theorem settled_by_last (h : Course config stages before xs r) {v : Verdict} (hr : r = .ok v)
    (hv : v ≠ .pass) :
    ∃ n s x o, stages[n]? = some s ∧ xs[n]? = some x ∧ xs.length = n + 1 ∧ x.answer = .ok o ∧
      s.check (config.interpret (s.call (stdoutBefore before xs n)) o) = .finished v := by
  induction h with
  | passed => exact absurd (Except.ok.inj hr).symm hv
  | unstarted => contradiction
  | @settled s before o verdict rest hcheck =>
    rw [Except.ok.inj hr] at hcheck
    exact ⟨0, s, _, o, rfl, rfl, rfl, rfl, hcheck⟩
  | @onward s rest before o xs r hcheck next ih =>
    obtain ⟨n, t, x, o', ht, hx, hlen, ho', hlast⟩ := ih hr
    refine ⟨n + 1, t, x, o', by simpa using ht, by simpa using hx, by simp [hlen], ho', ?_⟩
    rwa [stdoutBefore_cons_succ]

/-- A chain of no stages passes. -/
theorem eq_ok_iff_of_nil (h : Course config [] before xs r) (v : Verdict) :
    r = .ok v ↔ v = .pass := by
  cases h
  simp [eq_comm]

end Course

end Conformance
