import Conformance.Catalog
import Conformance.Pipeline
import Conformance.Report

/-!
# Runs

The jobs of a catalog that a filter chooses, performed one after the other. A failure is recorded
and the run goes on; a fault ends it.

## Main definitions

* `runJobs`: the performance of some jobs
* `Catalog.run`: the performance of the chosen jobs of a catalog, with its report
-/

namespace Conformance

variable {σ : Type}

/-- The result of a job with its verdict and its duration in milliseconds. -/
def Job.result (job : Job) (verdict : Verdict) (duration : Nat) : JobResult :=
  { suite := job.suite
    id := job.id
    path := job.input.path
    verdict
    duration := UInt64.ofNat (min duration (UInt64.size - 1)) }

/-- Perform jobs one after the other, up to the first fault. -/
def runJobs (runner : Runner σ) (config : Config) :
    List Job → World σ → Performance (List JobResult) σ
  | [], w => ⟨.ok [], [], w⟩
  | job :: jobs, w =>
    let p := job.perform runner config w
    match p.result with
    | .error fault => ⟨.error fault, p.exchanges, p.world⟩
    | .ok verdict =>
      let rest := runJobs runner config jobs p.world
      { result := rest.result.map
          (job.result verdict (runner.clock p.world - runner.clock w) :: ·)
        exchanges := p.exchanges ++ rest.exchanges
        world := rest.world }

/-- Perform the jobs that a filter chooses and report on them. -/
def Catalog.run (c : Catalog) (runner : Runner σ) (config : Config) (f : Filter) (w : World σ) :
    Performance Report σ :=
  let p := runJobs runner config (c.jobs f) w
  { p with result := p.result.map Report.ofResults }

@[simp] theorem runJobs_nil (runner : Runner σ) (config : Config) (w : World σ) :
    runJobs runner config [] w = ⟨.ok [], [], w⟩ := rfl

end Conformance
