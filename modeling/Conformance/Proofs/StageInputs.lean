import Conformance.Proofs.Configuration
import Conformance.Proofs.Scratch
import Conformance.Proofs.StageOrder

/-!
# What every stage is given

Each stage of a job consumes what the stage before it produced, under the flags that the input asks
for. What a process is given is seen by its runner: the invocation, and the world with its files. A
runner that keeps what it sees answers as it would without, and so its log tells what every process
of a job was given and what it left.

## Main definitions

* `Sight`, `Runner.watching`: what a runner sees of a process, and the runner that keeps it
* `Passage`: what is seen along a chain of stages
* `Job.sights`: what is seen of the processes of a job
* `Job.Opens`: a process leaves what lets its job go on
* `Starts`, `Follows`: what the first process and a later one are given
* `Job.CheckerSupplied`, `Job.SourceSupplied`, `Job.HeaderSupplied`, `Job.UclidSupplied`,
  `Job.XmlSupplied`: what the processes of a job are given, by its tool

## Main results

* `Stage.passage_perform`: what is seen along the performance of a chain
* `Passage.first`, `Passage.next`: what the first stage and every later one are given
* `Job.sights_spec`: watching a job changes nothing, and shows its exchanges
* `Job.sights_length`: how much is seen of a job
* `Job.stages_supplied`: what the processes of a job are given
-/

namespace Conformance

variable {σ : Type}

/-! ## What a runner sees -/

/-- **What a runner sees of a process**: what it is asked, in which environment and world, what it
answers, and the world that the process leaves. -/
structure Sight (σ : Type) where
  call : Invocation
  environment : Environment
  before : World σ
  answer : Except SpawnFailure Output
  after : World σ

/-- The exchange in a sight. -/
def Sight.exchange (x : Sight σ) : Exchange :=
  ⟨x.call, x.environment, x.answer⟩

/-- The world beside what was seen. -/
def World.watched (w : World σ) (seen : List (Sight σ)) : World (σ × List (Sight σ)) :=
  ⟨w.files, w.state, seen⟩

/-- The world without what was seen. -/
def World.unwatched (w : World (σ × List (Sight σ))) : World σ :=
  ⟨w.files, w.state.1⟩

@[simp] theorem World.unwatched_watched (w : World σ) (seen : List (Sight σ)) :
    (w.watched seen).unwatched = w := rfl

/-- **The runner that keeps what it sees**: it answers as another one does. -/
def Runner.watching (runner : Runner σ) : Runner (σ × List (Sight σ)) where
  run call environment w :=
    let (answer, u) := runner.run call environment w.unwatched
    (answer, u.watched (w.state.2 ++ [⟨call, environment, w.unwatched, answer, u⟩]))
  clock w := runner.clock w.unwatched

theorem Runner.watching_run (runner : Runner σ) (call : Invocation) (environment : Environment)
    {w u : World σ} {answer : Except SpawnFailure Output} (seen : List (Sight σ))
    (h : runner.run call environment w = (answer, u)) :
    runner.watching.run call environment (w.watched seen) =
      (answer, u.watched (seen ++ [⟨call, environment, w, answer, u⟩])) := by
  simp only [watching, World.unwatched_watched, h]
  rfl

/-- A performance by a runner that saw this. -/
def Performance.watched {α : Type} (p : Performance α σ) (seen : List (Sight σ)) :
    Performance α (σ × List (Sight σ)) :=
  ⟨p.result, p.exchanges, p.world.watched seen⟩

/-! ## What is seen along a chain -/

/-- **What is seen along a chain of stages**, or along a beginning of it. Every stage is given the
standard output of the stage before it, in the world that this one left, with its file written. -/
inductive Passage (runner : Runner σ) (config : Config) (scratch : Place) :
    List Stage → String → World σ → List (Sight σ) → Prop
  | nil (stages : List Stage) (before : String) (w : World σ) :
    Passage runner config scratch stages before w []
  | last {s : Stage} {before : String} {w u : World σ} {answer : Except SpawnFailure Output}
    (rest : List Stage)
    (run : runner.run (config.prepare (s.call before)) config.environment
      (s.enter scratch before w) = (answer, u)) :
    Passage runner config scratch (s :: rest) before w
      [⟨config.prepare (s.call before), config.environment, s.enter scratch before w, answer, u⟩]
  | onward {s : Stage} {rest : List Stage} {before : String} {w u : World σ} {o : Output}
    {seen : List (Sight σ)}
    (run : runner.run (config.prepare (s.call before)) config.environment
      (s.enter scratch before w) = (.ok o, u))
    (next : Passage runner config scratch rest o.stdout u seen) :
    Passage runner config scratch (s :: rest) before w
      (⟨config.prepare (s.call before), config.environment, s.enter scratch before w, .ok o, u⟩ ::
        seen)

/-- **What is seen along the performance of a chain.** Watching changes neither its result nor its
exchanges. -/
theorem Stage.passage_perform (runner : Runner σ) (config : Config) (scratch : Place)
    (stages : List Stage) (before : String) (w : World σ) (log : List (Sight σ)) :
    ∃ seen, Passage runner config scratch stages before w seen ∧
      ((chain stages before).perform runner config scratch w).exchanges =
        seen.map Sight.exchange ∧
      (chain stages before).perform runner.watching config scratch (w.watched log) =
        ((chain stages before).perform runner config scratch w).watched (log ++ seen) := by
  induction stages generalizing before w log with
  | nil => exact ⟨[], .nil .., rfl, by simp [chain, Performance.watched]⟩
  | cons s rest ih =>
    have henter : s.enter scratch before (w.watched log) =
        (s.enter scratch before w).watched log := by
      unfold enter
      cases s.file? <;> rfl
    rw [perform_cons, perform_cons, henter]
    rcases hrun : runner.run (config.prepare (s.call before)) config.environment
      (s.enter scratch before w) with ⟨answer, u⟩
    have hwatched := runner.watching_run _ _ log hrun
    cases answer with
    | error failure =>
      rw [Procedure.perform_run_error scratch _ hrun, Procedure.perform_run_error scratch _ hwatched]
      exact ⟨_, .last rest hrun, rfl, rfl⟩
    | ok o =>
      rw [Procedure.perform_run_ok scratch _ hrun, Procedure.perform_run_ok scratch _ hwatched]
      cases hcheck : s.check (config.interpret (s.call before) o) with
      | finished verdict => exact ⟨_, .last rest hrun, rfl, rfl⟩
      | proceed =>
        -- what is seen of this stage is in the log of the others
        obtain ⟨seen, hpassage, hexchanges, hrest⟩ := ih o.stdout u
          (log ++ [⟨config.prepare (s.call before), config.environment, s.enter scratch before w,
            .ok o, u⟩])
        refine ⟨_, .onward hrun hpassage, ?_, ?_⟩
        · simp only [Progress.andThen, Config.interpret_stdout, hexchanges, List.map_cons]
          rfl
        · simp only [Progress.andThen, Config.interpret_stdout, hrest, Performance.watched,
            List.append_assoc, List.singleton_append]

namespace Passage

variable {runner : Runner σ} {config : Config} {scratch : Place} {stages : List Stage}
  {before : String} {w : World σ} {seen : List (Sight σ)} {x : Sight σ}

/-- No stage is seen twice. -/
theorem length_le (h : Passage runner config scratch stages before w seen) :
    seen.length ≤ stages.length := by
  induction h with
  | nil => exact Nat.zero_le _
  | last => exact Nat.succ_le_succ (Nat.zero_le _)
  | onward _ _ ih => exact Nat.succ_le_succ ih

/-- **What the first stage is given.** -/
theorem first (h : Passage runner config scratch stages before w seen) (hx : seen[0]? = some x) :
    ∃ s, stages[0]? = some s ∧ x.call = config.prepare (s.call before) ∧
      x.before = s.enter scratch before w := by
  cases h with
  | nil => simp at hx
  | last | onward =>
    obtain rfl := Option.some.inj hx
    exact ⟨_, rfl, rfl, rfl⟩

/-- **What every later stage is given**: what the one before it left. -/
theorem next (h : Passage runner config scratch stages before w seen) {n : Nat}
    (hx : seen[n + 1]? = some x) :
    ∃ s y o, stages[n + 1]? = some s ∧ seen[n]? = some y ∧ y.answer = .ok o ∧
      x.call = config.prepare (s.call o.stdout) ∧ x.before = s.enter scratch o.stdout y.after := by
  induction h generalizing n with
  | nil => simp at hx
  | last => simp at hx
  | @onward s rest before w u o seen hrun hrest ih =>
    cases n with
    | zero =>
      obtain ⟨s', hs, hcall, hbefore⟩ := hrest.first hx
      exact ⟨s', _, o, hs, rfl, rfl, hcall, hbefore⟩
    | succ n => exact ih hx

end Passage

/-! ## The processes of a job -/

namespace Job

/-- What is seen of the processes of a job. -/
def sights (runner : Runner σ) (config : Config) (job : Job) (w : World σ) : List (Sight σ) :=
  (job.perform runner.watching config (w.watched [])).world.state.2

theorem inScratch_watching (runner : Runner σ) (config : Config)
    {procedure : Path → Procedure Verdict} {stages : List Stage} (w : World σ)
    (hchain : procedure w.scratchPath = Stage.chain stages "") :
    ∃ seen, Passage runner config w.scratch stages ""
        { w with files := w.files.put w.scratch .directory } seen ∧
      (inScratch runner config procedure w).exchanges = seen.map Sight.exchange ∧
      inScratch runner.watching config procedure (w.watched []) =
        (inScratch runner config procedure w).watched seen := by
  obtain ⟨seen, hpassage, hexchanges, hwatched⟩ := Stage.passage_perform runner config w.scratch
    stages "" { w with files := w.files.put w.scratch .directory } []
  rw [← hchain] at hexchanges hwatched
  refine ⟨seen, hpassage, hexchanges, ?_⟩
  -- the scratch directory is removed beside what was seen
  exact congrArg (fun p : Performance Verdict (σ × List (Sight σ)) =>
    { p with world := { p.world with files := p.world.files.removeTree w.scratch } }) hwatched

/-- **Watching a job changes nothing**: what is seen are its exchanges, with their worlds. What is
seen of a model is seen along its stages. -/
theorem sights_spec (runner : Runner σ) (config : Config) (job : Job) (w : World σ) :
    job.perform runner.watching config (w.watched []) =
        (job.perform runner config w).watched (job.sights runner config w) ∧
      (job.perform runner config w).exchanges =
        (job.sights runner config w).map Sight.exchange ∧
      (job.tool ≠ .executable →
        ∃ u, Passage runner config w.scratch (job.stages config w.scratchPath) "" u
          (job.sights runner config w)) := by
  obtain ⟨seen, hwatched, hexchanges, hpassage⟩ : ∃ seen,
      job.perform runner.watching config (w.watched []) =
        (job.perform runner config w).watched seen ∧
      (job.perform runner config w).exchanges = seen.map Sight.exchange ∧
      (job.tool ≠ .executable →
        ∃ u, Passage runner config w.scratch (job.stages config w.scratchPath) "" u seen) := by
    by_cases htool : job.tool = .executable
    · obtain ⟨seen, -, hexchanges, hwatched⟩ := Stage.passage_perform runner config []
        job.executableStages "" w []
      rw [perform, perform, if_pos htool, if_pos htool]
      exact ⟨seen, hwatched, hexchanges, fun hmodel => absurd htool hmodel⟩
    · cases hskip : job.input.expectations.skipReason with
      | some reason =>
        rw [perform_of_declared _ _ _ htool hskip, perform_of_declared _ _ _ htool hskip]
        exact ⟨[], rfl, rfl, fun _ => ⟨w, .nil ..⟩⟩
      | none =>
        obtain ⟨seen, hpassage, hexchanges, hwatched⟩ := inScratch_watching runner config w
          (job.procedure_eq_chain config w.scratchPath)
        rw [perform_of_model _ _ _ htool hskip, perform_of_model _ _ _ htool hskip]
        exact ⟨seen, hwatched, hexchanges, fun _ => ⟨_, hpassage⟩⟩
  have hsights : job.sights runner config w = seen := by
    rw [sights, hwatched]
    rfl
  rw [hsights]
  exact ⟨hwatched, hexchanges, hpassage⟩

/-- What the `n`-th process that is seen left, counted from zero, opens the gate behind its
stage. -/
def Opens (job : Job) (config : Config) (seen : List (Sight σ)) (n : Nat) : Prop :=
  ∃ y o gate, seen[n]? = some y ∧ y.answer = .ok o ∧ (job.gates config)[n]? = some gate ∧ gate o

/-- **As much is seen of a job as its gates let go on.** -/
theorem sights_length (runner : Runner σ) (config : Config) {job : Job} (w : World σ)
    (unskipped : job.input.expectations.skipReason = none) :
    0 < (job.sights runner config w).length ∧
      ∀ n, n + 1 < (job.sights runner config w).length ↔
        job.Opens config (job.sights runner config w) n := by
  have h := job.course_perform runner config w unskipped
  rw [(sights_spec runner config job w).2.1] at h
  generalize job.sights runner config w = seen at h
  have hlen := length_gates job config w.scratchPath
  constructor
  · have hstages : job.stages config w.scratchPath ≠ [] := by
      rw [← List.length_pos_iff]
      omega
    simpa [List.length_pos_iff] using mt h.eq_nil_iff.mp hstages
  · intro n
    have hiff := h.lt_length_iff n
    rw [List.length_map] at hiff
    rw [hiff]
    constructor
    · rintro ⟨hn, s, x, o, hs, hx, ho, hp⟩
      obtain ⟨y, hy, rfl⟩ : ∃ y, seen[n]? = some y ∧ y.exchange = x := by simpa using hx
      have hg := List.getElem?_eq_getElem (show n < (job.gates config).length by omega)
      exact ⟨y, o, _, hy, ho, hg, (gatedBy_of_getElem? hs hg _ o).mp hp⟩
    · rintro ⟨y, o, gate, hy, ho, hg, hopen⟩
      obtain ⟨hn, -⟩ := List.getElem?_eq_some_iff.mp hg
      have hx : (seen.map Sight.exchange)[n]? = some y.exchange := by simp [hy]
      obtain ⟨s, hs, -⟩ := h.call_eq hx
      exact ⟨by omega, s, _, o, hs, hx, ho, (gatedBy_of_getElem? hs hg _ o).mpr hopen⟩

end Job

/-! ## What the facts and the directives ask for -/

/-- The string that a fact states, or a default. -/
def Config.stringOf (facts : Dictionary Literal) (name default : String) : String :=
  ((facts.get? name).bind Literal.string?).getD default

/-- The strings that a fact states, or none. -/
def Config.listOf (facts : Dictionary Literal) (name : String) : List String :=
  ((facts.get? name).bind Literal.list?).getD []

theorem Config.eq_of_viewFact {α : Type} {wanted : Expected} {view : Literal → Option α}
    {default value : α} {facts : Dictionary Literal} {name : String}
    (h : viewFact wanted view default facts name = .ok value) :
    value = ((facts.get? name).bind view).getD default := by
  unfold viewFact at h
  cases hfact : facts.get? name with
  | none => simpa [hfact, eq_comm] using h
  | some v => cases hview : view v <;> simp_all

theorem Config.eq_of_stringFact {facts : Dictionary Literal} {name default s : String}
    (h : stringFact facts name default = .ok s) : s = stringOf facts name default :=
  eq_of_viewFact h

theorem Config.eq_of_listFact {facts : Dictionary Literal} {name : String} {l : List String}
    (h : listFact facts name = .ok l) : l = listOf facts name :=
  eq_of_viewFact h

theorem Variant.threadArgs_max (v : Variant) (cpus : Nat) :
    v.threadArgs (max cpus 1) =
      if v.multithreaded then if cpus ≤ 1 then ["--threads", "2"] else []
      else ["--threads", "1"] := by
  have hone : max cpus 1 = 1 ↔ cpus ≤ 1 := by omega
  simp only [threadArgs, hone]

theorem Variant.compileFlags_eq (v : Variant) (config : Config) (e : Expectations) :
    v.compileFlags config e =
      e.compilerFlags.getD (config.compilerFlags ++ if v.optimised then ["-O3"] else []) := by
  rw [compileFlags]
  cases e.compilerFlags <;> rfl

theorem linkFlags_eq (config : Config) (e : Expectations) :
    linkFlags config e =
      e.linkerFlags.getD ("-lpthread" :: if config.needsLibatomic then ["-latomic"] else []) := by
  rw [linkFlags]
  cases e.linkerFlags <;> rfl

/-- The first process that is seen is given this invocation. -/
def Starts (seen : List (Sight σ)) (call : Invocation) : Prop :=
  ∀ x, seen[0]? = some x → x.call = call

/-- Behind the `n`-th process that is seen, counted from zero, the next one is given this, as it is
said of the output and the world that the `n`-th left. -/
def Follows (seen : List (Sight σ)) (n : Nat) (given : Output → World σ → Sight σ → Prop) : Prop :=
  ∀ x, seen[n + 1]? = some x → ∃ y o, seen[n]? = some y ∧ y.answer = .ok o ∧ given o y.after x

section Follows

variable {runner : Runner σ} {config : Config} {scratch : Place} {stages : List Stage} {s : Stage}
  {before : String} {w u : World σ} {seen : List (Sight σ)}

theorem Passage.starts (h : Passage runner config scratch stages before w seen)
    (hs : stages[0]? = some s) : Starts seen (config.prepare (s.call before)) := by
  intro x hx
  obtain ⟨s', hs', hcall, -⟩ := h.first hx
  obtain rfl := Option.some.inj (hs.symm.trans hs')
  exact hcall

/-- A stage without a file finds the files as they were left. -/
theorem Passage.follows (h : Passage runner config scratch stages before w seen) {n : Nat}
    (hs : stages[n + 1]? = some s) (hfile : s.file? = none)
    (hplain : ∀ text, (s.call text).instrument = false) :
    Follows seen n fun o left x => x.before = left ∧ x.call = s.call o.stdout := by
  intro x hx
  obtain ⟨s', y, o, hs', hy, ho, hcall, hbefore⟩ := h.next hx
  obtain rfl := Option.some.inj (hs.symm.trans hs')
  rw [config.prepare_of_not_instrument (hplain _)] at hcall
  rw [Stage.enter, hfile] at hbefore
  exact ⟨y, o, hy, ho, hbefore, hcall⟩

/-- A stage with a file finds the standard output of the one before it there. -/
theorem Passage.follows_handed (h : Passage runner config w.scratch stages before u seen) {n : Nat}
    {name : String} (hs : stages[n + 1]? = some s) (hfile : s.file? = some name)
    (hname : Path.IsFileName name) (hplain : ∀ text, (s.call text).instrument = false) :
    Follows seen n fun o left x =>
      left.Handed (Path.join w.scratchPath name) o.stdout x.before ∧ x.call = s.call o.stdout := by
  intro x hx
  obtain ⟨s', y, o, hs', hy, ho, hcall, hbefore⟩ := h.next hx
  obtain rfl := Option.some.inj (hs.symm.trans hs')
  rw [config.prepare_of_not_instrument (hplain _)] at hcall
  refine ⟨y, o, hy, ho, ?_, hcall⟩
  rw [hbefore]
  exact Stage.handed_enter hfile hname w o.stdout y.after

end Follows

namespace Job

section Supplied

variable (job : Job) (facts : Dictionary Literal) (toolchain : Toolchain) (cpus : Nat)
  (config : Config) (scratch : Path) (seen : List (Sight σ))

/-- **What the processes of a checker are given**: the generator writes into a file that the
compiler reads, the compiler writes into one that is then run, and the validator is given what this
run has on its standard output. In between the files are left alone. -/
structure CheckerSupplied (v : Variant) : Prop where
  generator : Starts seen <| config.prepare
    { program := toolchain.rumur
      args := ["--output", Path.join scratch "model.c", job.input.path] ++
        (if v.debug then ["--debug"] else []) ++
        (if v.format = .machineReadable then ["--output-format", "machine-readable"] else []) ++
        (if v.multithreaded then if cpus ≤ 1 then ["--threads", "2"] else []
          else ["--threads", "1"]) ++
        job.input.expectations.generatorFlags
      instrument := true }
  compiler : Follows seen 0 fun _ left x => x.before = left ∧ x.call =
    { program := Config.stringOf facts "CC" "cc"
      args := job.input.expectations.compilerFlags.getD
          (Config.listOf facts "C_FLAGS" ++ if v.optimised then ["-O3"] else []) ++
        ["-o", Path.join scratch "model.exe", Path.join scratch "model.c"] ++
        job.input.expectations.linkerFlags.getD
          ("-lpthread" :: if facts.get? "NEEDS_LIBATOMIC" = some (.boolean true) then ["-latomic"]
            else []) }
  checker : Follows seen 1 fun _ left x =>
    x.before = left ∧ x.call = { program := Path.join scratch "model.exe" }
  validator : Follows seen 2 fun checked left x => x.before = left ∧ x.call =
    { program := toolchain.xmllint
      args := ["--relaxng", toolchain.verifierSchema, "--noout", "-"]
      stdin := some checked.stdout }
  length_le : seen.length ≤ 4

/-- **What the processes of a conversion to C are given**: the compiler finds in its file what the
converter has on its standard output. -/
structure SourceSupplied : Prop where
  converter : Starts seen <| config.prepare
    { program := toolchain.murphi2c, args := [job.input.path], instrument := true }
  compiler : Follows seen 0 fun converted left x =>
    left.Handed (Path.join scratch "model.c") converted.stdout x.before ∧ x.call =
      { program := Config.stringOf facts "CC" "cc"
        args := Config.listOf facts "C_FLAGS" ++
          ["-c", "-o", Path.join scratch "model.o", Path.join scratch "model.c"] }
  length_le : seen.length ≤ 2

/-- **What the processes of a conversion to a C header are given**: both compilers are given a
program that includes the file in which what the converter has on its standard output was handed
over to the first of them. -/
structure HeaderSupplied : Prop where
  converter : Starts seen <| config.prepare
    { program := toolchain.murphi2c, args := ["--header", job.input.path], instrument := true }
  compilerC : Follows seen 0 fun converted left x =>
    left.Handed (Path.join scratch "header.h") converted.stdout x.before ∧ x.call =
      { program := Config.stringOf facts "CC" "cc"
        args := Config.listOf facts "C_FLAGS" ++
          ["-o", Path.join scratch "header-c.out", "-x", "c", "-"]
        stdin := some (headerProgram (Path.join scratch "header.h")) }
  compilerCxx : Follows seen 1 fun _ left x => x.before = left ∧ x.call =
    { program := Config.stringOf facts "CXX" "c++"
      args := ["-std=c++11", "-o", Path.join scratch "header-cxx.out", "-x", "c++", "-",
        "-Werror=format", "-Werror=sign-compare", "-Werror=type-limits"]
      stdin := some (headerProgram (Path.join scratch "header.h")) }
  length_le : seen.length ≤ 3

/-- **What the processes of a conversion to Uclid5 are given**: the verifier finds in its file what
the converter has on its standard output. -/
structure UclidSupplied : Prop where
  converter : Starts seen <| config.prepare
    { program := toolchain.murphi2uclid, args := [job.input.path], instrument := true }
  verifier : Follows seen 0 fun converted left x =>
    left.Handed (Path.join scratch "source.ucl") converted.stdout x.before ∧ x.call =
      { program := toolchain.uclid, args := [Path.join scratch "source.ucl"] }
  length_le : seen.length ≤ 2

/-- **What the processes of a conversion to XML are given**: the validator is given what the
converter has on its standard output. -/
structure XmlSupplied : Prop where
  converter : Starts seen <| config.prepare
    { program := toolchain.murphi2xml, args := [job.input.path], instrument := true }
  validator : Follows seen 0 fun converted left x => x.before = left ∧ x.call =
    { program := toolchain.xmllint
      args := ["--relaxng", toolchain.murphi2xmlSchema, "--noout", "-"]
      stdin := some converted.stdout }
  length_le : seen.length ≤ 2

end Supplied

section

variable {facts : Dictionary Literal} {toolchain : Toolchain} {cpus : Nat} {config : Config}
  {runner : Runner σ} {job : Job} {w u : World σ} {seen : List (Sight σ)}

theorem checkerSupplied (hconfig : Config.ofFacts facts toolchain cpus = .ok config) (v : Variant)
    (h : Passage runner config w.scratch (job.checkerStages config v w.scratchPath) "" u seen) :
    CheckerSupplied job facts toolchain cpus config w.scratchPath seen v := by
  obtain ⟨hcc, -, hflags, -, -, -, hatomic, -, hcpus, rfl⟩ := Config.ofFacts_eq_ok_iff.mp hconfig
  have hgenerator := h.starts rfl
  have hcompiler := h.follows (n := 0) rfl rfl fun _ => rfl
  have hchecker := h.follows (n := 1) rfl rfl fun _ => rfl
  have hvalidator := h.follows (n := 2) rfl rfl fun _ => rfl
  refine ⟨?_, ?_, hchecker, hvalidator, h.length_le⟩
  · simpa only [generate, Variant.generatorArgs, Variant.isXml, beq_iff_eq, hcpus,
      Variant.threadArgs_max] using hgenerator
  · simpa only [compileChecker, Variant.compileFlags_eq, linkFlags_eq,
      Config.eq_of_stringFact hcc, Config.eq_of_listFact hflags,
      Config.eq_true_iff_of_flagFact hatomic] using hcompiler

theorem sourceSupplied (hconfig : Config.ofFacts facts toolchain cpus = .ok config)
    (h : Passage runner config w.scratch (job.sourceStages config w.scratchPath) "" u seen) :
    SourceSupplied job facts toolchain config w.scratchPath seen := by
  obtain ⟨hcc, -, hflags, -, -, -, -, -, -, rfl⟩ := Config.ofFacts_eq_ok_iff.mp hconfig
  have hcompiler := h.follows_handed (n := 0) rfl rfl (by constructor <;> decide) fun _ => rfl
  refine ⟨h.starts rfl, ?_, h.length_le⟩
  simpa only [compileConverted, Config.eq_of_stringFact hcc, Config.eq_of_listFact hflags]
    using hcompiler

theorem headerSupplied (hconfig : Config.ofFacts facts toolchain cpus = .ok config)
    (h : Passage runner config w.scratch (job.headerStages config w.scratchPath) "" u seen) :
    HeaderSupplied job facts toolchain config w.scratchPath seen := by
  obtain ⟨hcc, hcxx, hflags, -, -, -, -, -, -, rfl⟩ := Config.ofFacts_eq_ok_iff.mp hconfig
  have hcompilerC := h.follows_handed (n := 0) rfl rfl (by constructor <;> decide) fun _ => rfl
  have hcompilerCxx := h.follows (n := 1) rfl rfl fun _ => rfl
  refine ⟨h.starts rfl, ?_, ?_, h.length_le⟩
  · simpa only [compileHeaderC, Config.eq_of_stringFact hcc, Config.eq_of_listFact hflags]
      using hcompilerC
  · simpa only [compileHeaderCxx, Config.eq_of_stringFact hcxx] using hcompilerCxx

theorem uclidSupplied (hconfig : Config.ofFacts facts toolchain cpus = .ok config)
    (h : Passage runner config w.scratch (job.uclidStages config w.scratchPath) "" u seen) :
    UclidSupplied job toolchain config w.scratchPath seen := by
  obtain ⟨-, -, -, -, -, -, -, -, -, rfl⟩ := Config.ofFacts_eq_ok_iff.mp hconfig
  have hverifier := h.follows_handed (n := 0) rfl rfl (by constructor <;> decide) fun _ => rfl
  exact ⟨h.starts rfl, hverifier, h.length_le⟩

theorem xmlSupplied (hconfig : Config.ofFacts facts toolchain cpus = .ok config)
    (h : Passage runner config w.scratch (job.xmlStages config) "" u seen) :
    XmlSupplied job toolchain config seen := by
  obtain ⟨-, -, -, -, -, -, -, -, -, rfl⟩ := Config.ofFacts_eq_ok_iff.mp hconfig
  have hvalidator := h.follows (n := 0) rfl rfl fun _ => rfl
  exact ⟨h.starts rfl, hvalidator, h.length_le⟩

end

/-- **Each stage is given what the one before it produced**, under the flags that the facts and the
directives of the input ask for, in a configuration that facts state for any number of processors.
What is seen are the exchanges of the job, with their worlds. The stages of a checker hand their
files on by name, and nothing touches them in between; the output of a converter is handed over as
it is, in a file that is named to the next tool, in one that the programs for both compilers
include, or on the standard input of the validator. Unless the directives skip it, a job begins, and
behind every process there is another exactly if its gate is open. -/
theorem stages_supplied {facts : Dictionary Literal} {toolchain : Toolchain} {cpus : Nat}
    {config : Config} (hconfig : Config.ofFacts facts toolchain cpus = .ok config)
    (runner : Runner σ) (job : Job) (w : World σ) :
    let seen := job.sights runner config w
    let scratch := w.scratchPath
    job.perform runner.watching config (w.watched []) =
        (job.perform runner config w).watched seen ∧
      (job.perform runner config w).exchanges = seen.map Sight.exchange ∧
      (job.input.expectations.skipReason = none →
        0 < seen.length ∧ ∀ n, n + 1 < seen.length ↔ job.Opens config seen n) ∧
      (∀ v, job.tool = .checker v →
        job.CheckerSupplied facts toolchain cpus config scratch seen v) ∧
      (job.tool = .murphi2c → job.SourceSupplied facts toolchain config scratch seen) ∧
      (job.tool = .murphi2cHeader → job.HeaderSupplied facts toolchain config scratch seen) ∧
      (job.tool = .murphi2uclid → job.UclidSupplied toolchain config scratch seen) ∧
      (job.tool = .murphi2xml → job.XmlSupplied toolchain config seen) := by
  obtain ⟨hwatched, hexchanges, hpassage⟩ := sights_spec runner config job w
  refine ⟨hwatched, hexchanges, sights_length runner config w, fun v htool => ?_,
    fun htool => ?_, fun htool => ?_, fun htool => ?_, fun htool => ?_⟩
  all_goals
    obtain ⟨u, h⟩ := hpassage (by simp [htool])
    simp only [stages, htool] at h
  · exact checkerSupplied hconfig v h
  · exact sourceSupplied hconfig h
  · exact headerSupplied hconfig h
  · exact uclidSupplied hconfig h
  · exact xmlSupplied hconfig h

/-- Without processors a checker with several threads is generated for two, and what it prints is
what the validator reads. -/
theorem stages_supplied_without_processors :
    ∃ config, Config.ofFacts [("HAS_XMLLINT", .boolean true)] {} 0 = .ok config ∧
      let seen := (Job.bare (.checker ⟨false, false, true, .machineReadable⟩)).sights
        Runner.ofAnswers config
        (World.answering [.ok {}, .ok {}, .ok { stdout := "<run/>" }, .ok {}])
      (∃ x, seen[0]? = some x ∧ x.call.args = ["--output", "/tmp/rumur-harness-0/model.c",
        "model.m", "--output-format", "machine-readable", "--threads", "2"]) ∧
      ∃ x, seen[3]? = some x ∧ x.call.stdin = some "<run/>" := by
  let facts : Dictionary Literal := [("HAS_XMLLINT", .boolean true)]
  let config : Config := { Config.bare with facts, hasXmllint := true }
  have hconfig : Config.ofFacts facts {} 0 = .ok config := rfl
  refine ⟨config, hconfig, ?_⟩
  intro seen
  obtain ⟨-, -, -, hchecker, -⟩ := stages_supplied hconfig Runner.ofAnswers
    (Job.bare (.checker ⟨false, false, true, .machineReadable⟩))
    (World.answering [.ok {}, .ok {}, .ok { stdout := "<run/>" }, .ok {}])
  have hsupplied := hchecker _ rfl
  refine ⟨⟨_, rfl, ?_⟩, ⟨_, rfl, ?_⟩⟩
  · rw [hsupplied.generator _ rfl]
    rfl
  · obtain ⟨y, o, hy, ho, -, hcall⟩ := hsupplied.validator _ rfl
    obtain rfl := Option.some.inj hy
    obtain rfl := Except.ok.inj ho
    rw [hcall]

end Job

end Conformance
