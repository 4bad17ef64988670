import Conformance.Proofs.Json.RoundTrip
import Conformance.Report

/-!
# Reports are read back

A report for machines shows the report that was written: the results in their order, each with the
members of its own verdict, and their counts. No other results have the same text.

## Main results

* `JobResult.ofJson?_toJson`, `Summary.ofJson?_toJson`, `Report.ofJson?_toJson`: results, counts and
  reports are read back from their JSON values
* `Report.read?_json`: a report is read back from its text
* `Report.texts_faithful`: so it is for the report of any results, and its text tells them
-/

namespace Conformance

/-! ## Results -/

/-- Any number of milliseconds within 64 bits is read back. -/
theorem duration?_toNat (duration : UInt64) :
    duration? (.integer duration.toNat) = some duration := by
  have hrange : 0 ≤ (duration.toNat : Int) ∧ (duration.toNat : Int) < UInt64.size :=
    ⟨Int.natCast_nonneg _, Int.ofNat_lt.mpr duration.toNat_lt_size⟩
  rw [duration?, if_pos hrange, Int.toNat_natCast, UInt64.ofNat_toNat]

/-- The members of a result that do not belong to its verdict. -/
theorem JobResult.member?_toJson (r : JobResult) :
    r.toJson.member? "suite" = some (.string r.suite) ∧
      r.toJson.member? "id" = some (.string r.id) ∧
      r.toJson.member? "path" = some (.string r.path) ∧
      r.toJson.member? "duration_ms" = some (.integer r.duration.toNat) := by
  obtain ⟨suite, id, path, verdict, duration⟩ := r
  cases verdict <;> exact ⟨rfl, rfl, rfl, rfl⟩

/-- The verdict is told by the status of a result, and shown by the members that go with it. -/
theorem Verdict.ofMembers?_toJson (r : JobResult) : ofMembers? r.toJson = some r.verdict := by
  obtain ⟨suite, id, path, verdict, duration⟩ := r
  cases verdict with
  | pass => rfl
  | fail kind diagnostic => cases kind <;> rfl
  | skip reason => rfl

/-- A result is read from the members that show its parts. -/
theorem JobResult.ofJson?_of_members {j duration : Json} {r : JobResult}
    (hsuite : j.member? "suite" = some (.string r.suite))
    (hid : j.member? "id" = some (.string r.id))
    (hpath : j.member? "path" = some (.string r.path))
    (hmember : j.member? "duration_ms" = some duration)
    (hduration : duration? duration = some r.duration)
    (hverdict : Verdict.ofMembers? j = some r.verdict) : ofJson? j = some r := by
  simp [ofJson?, hsuite, hid, hpath, hmember, hduration, hverdict, Json.string?]

/-- **A result is read back**, whatever its verdict is. -/
theorem JobResult.ofJson?_toJson (r : JobResult) : ofJson? r.toJson = some r := by
  obtain ⟨hsuite, hid, hpath, hmember⟩ := r.member?_toJson
  exact ofJson?_of_members hsuite hid hpath hmember (duration?_toNat r.duration)
    (Verdict.ofMembers?_toJson r)

theorem JobResult.mapM_ofJson?_toJson (results : List JobResult) :
    (results.map toJson).mapM ofJson? = some results := by
  induction results with
  | nil => rfl
  | cons r results ih => simp [List.mapM_cons, ofJson?_toJson, ih]

/-! ## Reports -/

theorem Summary.ofJson?_toJson (s : Summary) : ofJson? s.toJson = some s :=
  rfl

/-- **A report is read back**, whatever its counts are. -/
theorem Report.ofJson?_toJson {r : Report} (h : r.schemaVersion < UInt32.size) :
    ofJson? r.toJson = some r := by
  have hversion : schemaVersion? (.integer r.schemaVersion) = some r.schemaVersion := if_pos h
  have hparts : r.toJson.parts? ["schema_version", "summary", "results"] =
      some [.integer r.schemaVersion, r.summary.toJson, .array (r.results.map JobResult.toJson)] :=
    rfl
  have hresults := JobResult.mapM_ofJson?_toJson r.results
  simp [ofJson?, hparts, hversion, Summary.ofJson?_toJson, Json.items?, hresults, -List.mapM_map]

/-! ## Texts -/

open Json (Integral)

theorem Verdict.integral_of_mem_members (v : Verdict) : ∀ m ∈ v.members, Integral m.2 := by
  cases v <;> simp [members]

theorem JobResult.integral_toJson (r : JobResult) : Integral r.toJson := by
  have hverdict := r.verdict.integral_of_mem_members
  simp only [toJson, Json.integral_object_iff, List.forall_mem_append]
  exact ⟨⟨by simp, hverdict⟩, by simp⟩

theorem Summary.integral_toJson (s : Summary) : Integral s.toJson := by
  simp [toJson]

/-- All numbers of a report are integers. -/
theorem Report.integral_toJson (r : Report) : Integral r.toJson := by
  have hresults : ∀ j ∈ r.results.map JobResult.toJson, Integral j :=
    List.forall_mem_map.mpr fun result _ => result.integral_toJson
  simp only [toJson, Json.integral_object_iff, List.forall_mem_cons]
  exact ⟨.integer _, r.summary.integral_toJson, .array hresults, by simp⟩

namespace Report

/-- **A report is read back from its text**, if its version is within 32 bits. -/
theorem read?_json {r : Report} (h : r.schemaVersion < UInt32.size) : read? r.json = some r := by
  have hspace : Json.skipSpace "\n".toList = [] := by decide
  rw [read?, json, Json.read?_pretty_append r.integral_toJson hspace]
  exact ofJson?_toJson h

/-- **Texts are faithful.** The text for machines of any results shows the report of these results:
its version, its counts, and the results in their order, whatever characters are in their texts. So
no two lists of results have the same text. -/
theorem texts_faithful :
    (∀ results, read? (ofResults results).json = some (ofResults results)) ∧
      Function.Injective fun results => (ofResults results).json := by
  have hread : ∀ results, read? (ofResults results).json = some (ofResults results) :=
    fun results => read?_json (by decide : reportSchemaVersion < UInt32.size)
  -- what is read back from the one text are the results of both
  refine ⟨hread, fun results results' heq => ?_⟩
  have hsame : some (ofResults results) = some (ofResults results') := by
    rw [← hread, ← hread]
    exact congrArg read? heq
  exact congrArg Report.results (Option.some.inj hsame)

end Report

end Conformance
