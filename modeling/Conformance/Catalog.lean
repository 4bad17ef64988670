import Conformance.Filter
import Conformance.Job

/-!
# The catalog

All jobs of a run, in suites. There is a suite for every registered tool from the start, and one is
added when a job of another tool comes. A name stands at most once in a suite.

## Main definitions

* `Suite`, `Catalog`: jobs in suites
* `Request`: what is asked for when a job is to be added
* `Suite.register`, `Catalog.submit`: what is left when a job is to be added, and the complaint if
  its name is taken
* `Catalog.register`: add a job, or complain that its name is taken
* `Catalog.registerModel`: add a job for every tool that models are run through
* `Catalog.jobs`: the jobs that a filter chooses
-/

namespace Conformance

/-- A request to add a job. It names no suite: that is found by the tool. -/
structure Request where
  tool : Tool
  id : String
  input : TestInput

/-- The jobs of one tool, and the set of the names that are taken among them. -/
structure Suite where
  name : String
  jobs : List Job := []
  ids : List String := []
deriving DecidableEq

/-- The suite after the request to add a job, which is refused if its name is taken. -/
def Suite.register (s : Suite) (job : Job) : Suite × Option Fault :=
  if job.id ∈ s.ids then (s, some (.duplicateTest s.name job.id job.input.path))
  else ({ s with jobs := s.jobs ++ [job], ids := job.id :: s.ids }, none)

/-- All jobs of a run. -/
structure Catalog where
  suites : List Suite
deriving DecidableEq

namespace Catalog

/-- The catalog without jobs: an empty suite for programs and for every tool of models. -/
def empty : Catalog :=
  ⟨(Tool.executable :: Tool.models).map fun tool => { name := tool.suiteName }⟩

/-- Suites after a job is to be added to the suite of a name, which comes last if it is new. -/
def submitTo (suite : String) (job : Job) : List Suite → List Suite × Option Fault
  | [] =>
    let (s, fault) := Suite.register { name := suite } job
    ([s], fault)
  | s :: rest =>
    if s.name = suite then
      let (s, fault) := s.register job
      (s :: rest, fault)
    else
      let (rest, fault) := submitTo suite job rest
      (s :: rest, fault)

/-- The catalog after a request to add a job, which is refused if its name is taken in its suite. The
suite is that of the tool, and its name is stored in the job. -/
def submit (c : Catalog) (r : Request) : Catalog × Option Fault :=
  let suite := r.tool.suiteName
  let (suites, fault) := submitTo suite ⟨suite, r.id, r.tool, r.input⟩ c.suites
  (⟨suites⟩, fault)

/-- Add a job, unless its name is taken in its suite. -/
def register (c : Catalog) (tool : Tool) (id : String) (input : TestInput) :
    Except Fault Catalog :=
  match c.submit ⟨tool, id, input⟩ with
  | (c, none) => .ok c
  | (_, some fault) => .error fault

/-- Add a job for each of some tools. What was added before a complaint is returned with it. -/
def registerEach (c : Catalog) (id : String) (input : TestInput) :
    List Tool → Catalog × Option Fault
  | [] => (c, none)
  | tool :: tools =>
    match c.submit ⟨tool, id, input⟩ with
    | (c, some fault) => (c, some fault)
    | (c, none) => c.registerEach id input tools

/-- Add a job for every tool that models are run through. -/
def registerModel (c : Catalog) (id : String) (input : TestInput) : Catalog × Option Fault :=
  c.registerEach id input Tool.models

/-- All jobs, in the order of the suites and of their registration. -/
def allJobs (c : Catalog) : List Job :=
  c.suites.flatMap Suite.jobs

/-- The jobs that a filter chooses by their keys. -/
def jobs (c : Catalog) (f : Filter) : List Job :=
  c.allJobs.filter fun job => f.selects job.key

/-- The number of jobs. -/
def size (c : Catalog) : Nat :=
  c.allJobs.length

/-- There is no job. -/
def isEmpty (c : Catalog) : Bool :=
  c.size == 0

end Catalog

end Conformance
