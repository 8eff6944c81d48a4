/-
ManifestDeps.Proofs.ReportTheorems — a report on components loses nothing.

Components that are analyzed each on its own leave one set of dependencies
for each name (`Analyzer.analyzeEach_eq`), and all their reports, which a
recorder keeps in the order in which the analyses are settled
(`Analyzer.Records`). A report on them sorts the warnings and errors by the
component that they name. Two facts make this a partition: the entries have
distinct names, also where a component is listed twice, and every record
names the component whose analysis made it, as long as no rule names one
itself (`Analyzer.LeavesComponentOpen`). The first turns sorting into a
permutation (`flatMap_filter_perm`), the second says which records stand
where (`Analyzer.LeavesComponentOpen.reportedFor_flatMap`).
-/
import Mathlib.Algebra.GroupWithZero.Nat
import Mathlib.Data.List.Perm.Basic
import ManifestDeps.CommandLine.Run
import ManifestDeps.Proofs.BatchTheorems

namespace ManifestDeps

/-! ## §1 Components on their own -/

namespace Analyzer

/-- What analyzing a component reports. -/
def reports (a : Analyzer) (c : String) : List Diagnostic :=
  (a.analyze c .empty).reports

theorem analyze_reports (a : Analyzer) (c : String) (d : DependencySet) :
    (a.analyze c d).reports = a.reports c := by
  rw [reports, a.analyze_eq_outcome, a.analyze_eq_outcome]
  exact Course.outcome_reports c d .empty (a.course c)

/-- Setting the result of a name replaces it, or puts it behind the
others. -/
theorem setResult_map (f : String → DependencySet) (names : List String) (c : String) :
    setResult (names.map fun n => (n, f n)) c (f c) =
      (if c ∈ names then names else names ++ [c]).map fun n => (n, f n) := by
  induction names with
  | nil => rfl
  | cons n rest ih =>
    by_cases hn : n = c
    · subst hn
      simp [setResult]
    · have hc : ¬ c = n := fun h => hn h.symm
      simp only [List.map_cons, setResult, hn, if_false, ih, List.mem_cons, hc, false_or]
      split <;> rfl

theorem analyzeEach_concat (a : Analyzer) (cs : List String) (c : String) :
    a.analyzeEach (cs ++ [c]) =
      (setResult (a.analyzeEach cs).1 c (a.analyze c .empty).dependencies,
        (a.analyzeEach cs).2 ++ a.reports c) := by
  rw [analyzeEach, List.foldl_append]
  rfl

/-- One set for each name, in the order of first occurrence, as if the
component had been analyzed alone; and the reports of all analyses. -/
theorem analyzeEach_eq (a : Analyzer) (cs : List String) :
    a.analyzeEach cs =
      (cs.eraseDups.map fun c => (c, (a.analyze c .empty).dependencies),
        cs.flatMap a.reports) := by
  induction cs using List.reverseRecOn with
  | nil => rfl
  | append_singleton before c ih =>
    rw [analyzeEach_concat, ih, setResult_map fun c => (a.analyze c .empty).dependencies,
      Table.eraseDups_concat, List.flatMap_append, List.flatMap_singleton]
    simp only [List.mem_eraseDups]

theorem names_analyzeEach (a : Analyzer) (cs : List String) :
    (a.analyzeEach cs).1.map Prod.fst = cs.eraseDups := by
  rw [analyzeEach_eq, List.map_map]
  exact List.map_id _

/-- What a recorder can keep of components that are analyzed each on its
own: the reports of one analysis stand together, in the order in which the
analyses are settled. -/
def Records (a : Analyzer) (components : List String) (records : List Diagnostic) : Prop :=
  ∃ order : List String, order.Perm components ∧ records = order.flatMap a.reports

theorem records_analyzeEach (a : Analyzer) (cs : List String) :
    a.Records cs (a.analyzeEach cs).2 :=
  ⟨cs, .refl _, by rw [analyzeEach_eq]⟩

theorem analyzeAll_reports (a : Analyzer) (cs : List String) (d : DependencySet) :
    (a.analyzeAll cs d).reports = cs.flatMap a.reports := by
  induction cs using List.reverseRecOn with
  | nil => rfl
  | append_singleton before c ih =>
    rw [analyzeAll_concat, Outcome.andThen, ih, analyze_reports, List.flatMap_append,
      List.flatMap_singleton]

/-- Side by side and under any limit, the analyses report no more and no
less. -/
theorem Ends.records {a : Analyzer} {k : Option Int} {cs : List String} {d : DependencySet}
    {o : Outcome} (h : a.Ends k cs d o) : a.Records cs o.reports := by
  obtain ⟨order, hperm, rfl⟩ := exists_perm_of_ends h
  exact ⟨order, hperm, a.analyzeAll_reports order d⟩

end Analyzer

/-! ## §2 Sorting by name -/

/-- Things that carry one of some distinct names each are a permutation of
themselves sorted by name. -/
theorem flatMap_filter_perm {α : Type} {f : α → Option String} {names : List String}
    (hn : names.Nodup) {xs : List α} (h : ∀ x ∈ xs, ∃ n ∈ names, f x = some n) :
    (names.flatMap fun n => xs.filter fun x => f x == some n).Perm xs := by
  induction names generalizing xs with
  | nil =>
    have hnone : xs = [] := List.eq_nil_iff_forall_not_mem.mpr fun x hx => by
      obtain ⟨n, hmem, -⟩ := h x hx
      cases hmem
    rw [hnone]
    exact List.Perm.refl _
  | cons name rest ih =>
    obtain ⟨hname, hrest⟩ := List.nodup_cons.mp hn
    -- what carries the first name is set apart, the others carry one of the rest
    let others := xs.filter fun x => !(f x == some name)
    have hothers : ∀ x ∈ others, ∃ n ∈ rest, f x = some n := by
      intro x hx
      obtain ⟨hmem, hne⟩ := List.mem_filter.mp hx
      obtain ⟨n, hn, hfx⟩ := h x hmem
      rcases List.mem_cons.mp hn with rfl | hn
      · simp [hfx] at hne
      · exact ⟨n, hn, hfx⟩
    have hsame : (rest.flatMap fun n => xs.filter fun x => f x == some n) =
        rest.flatMap fun n => others.filter fun x => f x == some n := by
      refine List.flatMap_congr fun n hn => ?_
      rw [List.filter_filter]
      refine List.filter_congr fun x _ => ?_
      by_cases hfx : f x = some n
      · have hne : n ≠ name := fun he => hname (he ▸ hn)
        simp [hfx, hne]
      · simp [hfx]
    rw [List.flatMap_cons, hsame]
    exact ((ih hrest hothers).append_left _).trans (List.filter_append_perm _ xs)

/-! ## §3 The entries of a report -/

theorem reportedFor_append (c : String) (ds es : List Diagnostic) :
    reportedFor c (ds ++ es) = reportedFor c ds ++ reportedFor c es :=
  List.filter_append ..

/-- The diagnostics for a component are the kept ones among those that name
it. -/
theorem reportedFor_eq_filter (c : String) (ds : List Diagnostic) :
    reportedFor c ds =
      (ds.filter (·.isReported)).filter fun d => d.component? == some c := by
  rw [reportedFor, List.filter_filter]
  exact List.filter_congr fun d _ => Bool.and_comm _ _

namespace Analyzer.LeavesComponentOpen

variable {a : Analyzer} {c : String}

theorem reportedFor_self (h : a.LeavesComponentOpen) :
    reportedFor c (a.reports c) = (a.reports c).filter (·.isReported) := by
  refine List.filter_congr fun r hr => ?_
  rw [h.component?_eq hr]
  simp

theorem reportedFor_other (h : a.LeavesComponentOpen) {other : String} (hne : other ≠ c) :
    reportedFor c (a.reports other) = [] := by
  rw [reportedFor, List.filter_eq_nil_iff]
  intro r hr
  rw [h.component?_eq hr]
  simp [hne]

/-- The diagnostics for a component are those that its own analyses made,
in their order. -/
theorem reportedFor_flatMap (h : a.LeavesComponentOpen) (order : List String) :
    reportedFor c (order.flatMap a.reports) =
      (order.filter (· == c)).flatMap fun c => (a.reports c).filter (·.isReported) := by
  induction order with
  | nil => rfl
  | cons first rest ih =>
    rw [List.flatMap_cons, reportedFor_append, ih, List.filter_cons]
    by_cases hc : first = c
    · rw [hc, h.reportedFor_self]
      simp
    · rw [h.reportedFor_other hc]
      simp [hc]

end Analyzer.LeavesComponentOpen

theorem Report.names_ofResults (results : List (String × DependencySet))
    (ds : List Diagnostic) :
    (Report.ofResults results ds).map Prod.fst = results.map Prod.fst := by
  rw [Report.ofResults, List.map_map]
  rfl

theorem Report.diagnostics_ofResults (results : List (String × DependencySet))
    (ds : List Diagnostic) :
    ((Report.ofResults results ds).flatMap fun e => e.2.diagnostics) =
      (results.map Prod.fst).flatMap fun c => reportedFor c ds := by
  rw [Report.ofResults, List.flatMap_map, List.flatMap_map]

/-- Where names are distinct, the entry for a component holds its dependencies
and the diagnostics that name it. -/
theorem Report.lookup_ofResults_of_mem {results : List (String × DependencySet)}
    (hn : (results.map Prod.fst).Nodup) {c : String} {d : DependencySet} (h : (c, d) ∈ results)
    (ds : List Diagnostic) :
    (Report.ofResults results ds).lookup c = some ⟨d.sorted, reportedFor c ds⟩ := by
  refine (Table.lookup_eq_some_iff_mem ?_).mpr (List.mem_map_of_mem h)
  rwa [Table.DistinctNames, Report.names_ofResults]

/-- There is an entry for each component. -/
theorem Report.lookup_ofResults {results : List (String × DependencySet)}
    (hn : (results.map Prod.fst).Nodup) {c : String} (hc : c ∈ results.map Prod.fst)
    (ds : List Diagnostic) :
    ∃ e, (Report.ofResults results ds).lookup c = some e ∧ e.diagnostics = reportedFor c ds := by
  obtain ⟨r, hr, rfl⟩ := List.mem_map.mp hc
  exact ⟨_, lookup_ofResults_of_mem hn hr ds, rfl⟩

/-- What is kept is a warning or an error. -/
theorem countP_isReported (ds : List Diagnostic) :
    ds.countP (·.isReported) =
      ds.countP (·.severity == .warn) + ds.countP (·.severity == .error) := by
  induction ds with
  | nil => rfl
  | cons d rest ih =>
    rw [List.countP_cons, List.countP_cons, List.countP_cons, ih]
    rcases hs : d.severity with _ | _ | _ <;> simp [Diagnostic.isReported, hs] <;> omega

/-- The entries share out what is kept of the records. -/
theorem Analyzer.LeavesComponentOpen.diagnostics_perm {a : Analyzer}
    (h : a.LeavesComponentOpen) {cs : List String} {records : List Diagnostic}
    (hrecords : a.Records cs records) :
    ((Report.ofResults (a.analyzeEach cs).1 records).flatMap fun e => e.2.diagnostics).Perm
      (records.filter (·.isReported)) := by
  obtain ⟨order, hperm, rfl⟩ := hrecords
  rw [Report.diagnostics_ofResults, a.names_analyzeEach]
  simp only [reportedFor_eq_filter]
  refine flatMap_filter_perm (Table.nodup_eraseDups cs) fun r hr => ?_
  obtain ⟨c, hc, hr⟩ := List.mem_flatMap.mp (List.mem_filter.mp hr).1
  exact ⟨c, List.mem_eraseDups.mpr (hperm.mem_iff.mp hc), h.component?_eq hr⟩

/-! ## §4 Nothing lost, nothing twice, nothing misplaced -/

/-- **Reports are complete.** Components are analyzed each on its own, in
any order and side by side, and a recorder keeps what is reported. The
report on them has one entry for each name, also where it is listed more
than once. All entries together hold exactly the recorded warnings and
errors, each in the entry of the component whose analysis made it and there
in the order of making. So they are as many as the summary counts. -/
theorem report_keeps_every_record {a : Analyzer} (h : a.LeavesComponentOpen)
    {cs : List String} {records : List Diagnostic} (hrecords : a.Records cs records) :
    let results := (a.analyzeEach cs).1
    let report := Report.ofResults results records
    let warnings := records.countP (·.severity == .warn)
    let errors := records.countP (·.severity == .error)
    report.map Prod.fst = cs.eraseDups ∧ (report.map Prod.fst).Nodup ∧
      (report.flatMap fun e => e.2.diagnostics.map Diagnostic.toJson).Perm
        ((records.filter (·.isReported)).map Diagnostic.toJson) ∧
      (∃ order : List String, order.Perm cs ∧ records = order.flatMap a.reports ∧
        ∀ c ∈ cs, ∃ e, report.lookup c = some e ∧ e.diagnostics.Sublist records ∧
          e.diagnostics =
            (order.filter (· == c)).flatMap fun c => (a.reports c).filter (·.isReported)) ∧
      CommandLine.summary results.length records =
        "Analyzed " ++ toString results.length ++ " component" ++
          (if results.length = 1 then "" else "s") ++ ": " ++ toString warnings ++
          " warning(s), " ++ toString errors ++ " error(s)" ∧
      (report.map fun e => e.2.diagnostics.length).sum = warnings + errors := by
  intro results report warnings errors
  have hresults : results.map Prod.fst = cs.eraseDups := a.names_analyzeEach cs
  have hnames : report.map Prod.fst = cs.eraseDups :=
    (Report.names_ofResults results records).trans hresults
  have hdistinct : (results.map Prod.fst).Nodup := hresults ▸ Table.nodup_eraseDups cs
  have hpartition := h.diagnostics_perm hrecords
  refine ⟨hnames, hnames ▸ Table.nodup_eraseDups cs, ?_, ?_, rfl, ?_⟩
  · rw [← List.map_flatMap]
    exact hpartition.map _
  · obtain ⟨order, hperm, rfl⟩ := hrecords
    refine ⟨order, hperm, rfl, fun c hc => ?_⟩
    have hmem : c ∈ results.map Prod.fst := hresults ▸ List.mem_eraseDups.mpr hc
    obtain ⟨e, hlookup, hdiagnostics⟩ := Report.lookup_ofResults hdistinct hmem _
    rw [← h.reportedFor_flatMap order]
    exact ⟨e, hlookup, hdiagnostics ▸ List.filter_sublist, hdiagnostics⟩
  · have hlength := hpartition.length_eq
    rw [List.length_flatMap, ← List.countP_eq_length_filter, countP_isReported] at hlength
    exact hlength

/-- A component that is listed twice and has a model without a class, one
with a malformed descriptor, and one without a descriptor. -/
theorem report_keeps_three_records :
    let files : Table Content :=
      [("my/manifest.json", .text "\x7b\"sap.ui5\":\x7b\"models\":\x7b\"m\":null\x7d\x7d\x7d"),
        ("bad/manifest.json", .text "[]")]
    let a : Analyzer := { pool := .ofTable files }
    let cs := ["my/Component.js", "bad/Component.js", "none/Component.js", "my/Component.js"]
    let records := (a.analyzeEach cs).2
    let report := Report.ofResults (a.analyzeEach cs).1 records
    a.LeavesComponentOpen ∧ a.Records cs records ∧
      records.countP (·.severity == .warn) = 2 ∧ records.countP (·.severity == .error) = 1 ∧
      (report.map fun e => e.2.diagnostics.length).sum = 2 + 1 := by
  intro files a cs records report
  have hopen : a.LeavesComponentOpen :=
    Analyzer.UsesDefaultRules.leavesComponentOpen fun rule hrule => .inl hrule
  have hrecords : a.Records cs records := a.records_analyzeEach cs
  have hwarnings : records.countP (·.severity == .warn) = 2 := by decide +kernel
  have herrors : records.countP (·.severity == .error) = 1 := by decide +kernel
  obtain ⟨-, -, -, -, -, htotal⟩ := report_keeps_every_record hopen hrecords
  refine ⟨hopen, hrecords, hwarnings, herrors, htotal.trans ?_⟩
  rw [hwarnings, herrors]

end ManifestDeps
