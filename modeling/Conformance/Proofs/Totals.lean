import Conformance.Proofs.Run
import Conformance.Proofs.Summary

/-!
# Totals add up

The counts of some results are numbers of results with a property, and so they do not depend on the
order of the results, and the counts of two lists in a row are the sums of theirs. Every result has
a verdict of exactly one kind, and so the counts of the three kinds add up to the number of all.

## Main definitions

* `Summary.add`: the sums of two counts

## Main results

* `Summary.total_eq_add`: every result is counted under exactly one kind of verdict
* `Summary.ofResults_append`, `Summary.ofResults_perm`: the counts of two lists in a row, and of a
  list in another order
* `length_of_runJobs`: a run that comes to an end has a result for every job
* `Report.totals_add_up`: what the counts of a report say
-/

namespace Conformance

/-! ## Kinds of verdicts -/

namespace Verdict

/-- A verdict is of exactly one kind. -/
theorem one_kind (v : Verdict) :
    (if v.isPass then 1 else 0) + (if v.isFail then 1 else 0) + (if v.isSkip then 1 else 0) =
      1 := by
  cases v <;> rfl

theorem isFail_iff {v : Verdict} :
    v.isFail = true ↔ ∃ kind diagnostic, v = .fail kind diagnostic := by
  cases v <;> simp [isFail]

theorem isFail_of_isMemoryViolation {v : Verdict} (h : v.isMemoryViolation = true) :
    v.isFail = true := by
  cases v with
  | fail kind diagnostic => rfl
  | pass | skip reason => contradiction

end Verdict

/-! ## Counts -/

namespace Summary

/-- The sums of two counts, one by one. -/
def add (s s' : Summary) : Summary :=
  ⟨s.total + s'.total, s.passed + s'.passed, s.failed + s'.failed, s.skipped + s'.skipped,
    s.memoryViolations + s'.memoryViolations⟩

/-- **Every result is counted under exactly one kind of verdict.** -/
theorem total_eq_add (results : List JobResult) :
    (ofResults results).total =
      (ofResults results).passed + (ofResults results).failed + (ofResults results).skipped := by
  rw [ofResults_eq]
  induction results with
  | nil => rfl
  | cons r results ih =>
    have hkind := r.verdict.one_kind
    simp only [List.countP_cons, List.length_cons] at ih ⊢
    omega

/-- Violations are among the failures. -/
theorem memoryViolations_le_failed (results : List JobResult) :
    (ofResults results).memoryViolations ≤ (ofResults results).failed := by
  rw [ofResults_eq]
  apply List.countP_mono_left
  intro r _ hviolation
  exact Verdict.isFail_of_isMemoryViolation hviolation

/-- **The counts of two lists in a row** are the sums of theirs. -/
theorem ofResults_append (results further : List JobResult) :
    ofResults (results ++ further) = (ofResults results).add (ofResults further) := by
  simp only [ofResults_eq, add, List.length_append, List.countP_append]

/-- **The order of the results does not count.** -/
theorem ofResults_perm {results results' : List JobResult} (h : results'.Perm results) :
    ofResults results' = ofResults results := by
  simp only [ofResults_eq, h.length_eq, h.countP_eq]

end Summary

/-! ## Runs -/

/-- **A run that comes to an end has a result for every job.** -/
theorem length_of_runJobs {σ : Type} {runner : Runner σ} {config : Config} {jobs : List Job}
    {w : World σ} {results : List JobResult}
    (h : (runJobs runner config jobs w).result = .ok results) : results.length = jobs.length :=
  let ps := Job.performEach runner config jobs w
  calc
    results.length = ps.length := (records_of_runJobs h).length_eq.symm
    _ = (ps.map Prod.fst).length := (List.length_map Prod.fst).symm
    _ = jobs.length := by rw [Job.map_fst_performEach]

/-- **The totals of a report add up**, whatever its results are: all results are counted, each under
one kind of verdict, and violations under failures besides; there are failures exactly if some
result is one. The counts of two lists of results in a row are the sums of theirs, and no order of
the results changes them. A run of a catalog that comes to a report counts its results, and they are
as many as the jobs that the filter chooses. -/
theorem Report.totals_add_up (results : List JobResult) :
    let s := (Report.ofResults results).summary
    s.total = results.length ∧
      s.total = s.passed + s.failed + s.skipped ∧
      s.memoryViolations = results.countP (fun r => r.verdict.isMemoryViolation) ∧
      s.memoryViolations ≤ s.failed ∧
      (s.hasFailures = true ↔
        ∃ r ∈ results, ∃ kind diagnostic, r.verdict = .fail kind diagnostic) ∧
      (∀ further, (Report.ofResults (results ++ further)).summary =
        s.add (Report.ofResults further).summary) ∧
      (∀ results', results'.Perm results → (Report.ofResults results').summary = s) ∧
      ∀ {σ : Type} (c : Catalog) (runner : Runner σ) (config : Config) (f : Filter) (w : World σ)
        (report : Report), (c.run runner config f w).result = .ok report →
          report.summary = (Report.ofResults report.results).summary ∧
            report.summary.total = (c.jobs f).length := by
  intro s
  have hcounts : s = _ := Summary.ofResults_eq results
  refine ⟨?_, Summary.total_eq_add results, ?_, Summary.memoryViolations_le_failed results, ?_,
    Summary.ofResults_append results, fun results' => Summary.ofResults_perm, ?_⟩
  · rw [hcounts]
  · rw [hcounts]
  · apply (Summary.hasFailures_iff results).trans
    exact exists_congr fun r => and_congr_right fun _ => Verdict.isFail_iff
  · intro σ c runner config f w report hrun
    obtain ⟨found, hfound, rfl⟩ := Catalog.run_eq_ok_iff.mp hrun
    refine ⟨rfl, ?_⟩
    rw [← length_of_runJobs hfound]
    exact congrArg Summary.total (Summary.ofResults_eq found)

end Conformance
