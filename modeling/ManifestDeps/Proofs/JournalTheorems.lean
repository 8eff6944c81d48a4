/-
ManifestDeps.Proofs.JournalTheorems — the reports of additions are a journal.

Whatever is called on an analyzer, the reports tell what became of the
dependencies: the reports of additions, read one after the other and made
once more on what was there before, give what is there now. `KeepsJournal`
says so of one outcome. It holds of every course of an analysis
(`keepsJournal_analyze`): only the last course adds, and it reports each
addition right before it is made. It is kept when one outcome follows on
another (`KeepsJournal.andThen`), and so it holds of every run.

A report of an addition is known by its code. Rules could abuse that code
for a report of their own, which would stand among the others; a run
accounts for such reports apart, and where the rules make none, all reports
with the code are the journal (`KeepsJournal.replay_of_not_foreign`).
-/
import Mathlib.Data.List.Perm.Basic
import ManifestDeps.Proofs.BatchTheorems

namespace ManifestDeps

/-! ## §1 Reading a journal -/

namespace Diagnostic

/-- A report that something was added. -/
def tellsAddition (r : Diagnostic) : Bool :=
  r.code == .dependencyAdded

/-- The addition that a report tells of. -/
def addition? (r : Diagnostic) : Option (String × Bool) :=
  match r.code, r.context.lookup "module", r.context.lookup "conditional" with
  | .dependencyAdded, some (.value (.str module)), some (.value (.bool conditional)) =>
    some (module, conditional)
  | _, _, _ => none

end Diagnostic

/-- A journal for an outcome: its entries stand among the reports in their
order, all other reports of additions are foreign, and making the additions
of its entries once more, on what was there before, gives what is there
now. -/
structure Outcome.KeepsJournal (foreign : Diagnostic → Prop) (d : DependencySet) (o : Outcome)
    (journal : List Diagnostic) : Prop where
  sublist : journal.Sublist o.reports
  accounted : ∃ others, (o.reports.filter (·.tellsAddition)).Perm (journal ++ others) ∧
    ∀ r ∈ others, foreign r
  replay : ∃ xs, journal.mapM Diagnostic.addition? = some xs ∧ d.addAll xs = o.dependencies

namespace Outcome.KeepsJournal

variable {foreign : Diagnostic → Prop} {d : DependencySet} {o : Outcome}
  {journal : List Diagnostic}

/-- An outcome that adds nothing and reports no addition has an empty
journal. -/
theorem of_unchanged {reports : List Diagnostic}
    (h : ∀ r ∈ reports, r.tellsAddition = false) :
    KeepsJournal foreign d ⟨d, reports⟩ [] where
  sublist := List.nil_sublist _
  accounted := by
    have hnone : reports.filter (·.tellsAddition) = [] := by
      rw [List.filter_eq_nil_iff]
      intro r hr
      rw [h r hr]
      exact Bool.false_ne_true
    exact ⟨[], by simp [hnone], by simp⟩
  replay := ⟨[], rfl, rfl⟩

/-- **Step lemma**: the journals of outcomes that follow on each other are
one journal. -/
theorem andThen {next : DependencySet → Outcome} {journal' : List Diagnostic}
    (h : KeepsJournal foreign d o journal)
    (h' : KeepsJournal foreign o.dependencies (next o.dependencies) journal') :
    KeepsJournal foreign d (o.andThen next) (journal ++ journal') where
  sublist := h.sublist.append h'.sublist
  accounted := by
    obtain ⟨others, hperm, hothers⟩ := h.accounted
    obtain ⟨others', hperm', hothers'⟩ := h'.accounted
    refine ⟨others ++ others', ?_, ?_⟩
    · simp only [Outcome.andThen, List.filter_append]
      refine (hperm.append hperm').trans ?_
      simp only [List.append_assoc]
      refine List.Perm.append_left _ ?_
      rw [← List.append_assoc, ← List.append_assoc]
      exact List.Perm.append_right _ List.perm_append_comm
    · intro r hr
      rcases List.mem_append.mp hr with hr | hr
      · exact hothers r hr
      · exact hothers' r hr
  replay := by
    obtain ⟨xs, hread, hxs⟩ := h.replay
    obtain ⟨ys, hread', hys⟩ := h'.replay
    refine ⟨xs ++ ys, ?_, ?_⟩
    · simp [List.mapM_append, hread, hread']
    · rw [DependencySet.addAll_append, hxs, hys]
      rfl

/-- Where no report is foreign, the journal is all reports of additions. -/
theorem replay_of_not_foreign (h : KeepsJournal foreign d o journal) (hnone : ∀ r, ¬ foreign r) :
    ∃ xs, (o.reports.filter (·.tellsAddition)).mapM Diagnostic.addition? = some xs ∧
      d.addAll xs = o.dependencies := by
  obtain ⟨others, hperm, hothers⟩ := h.accounted
  obtain rfl : others = [] := List.eq_nil_iff_forall_not_mem.mpr fun r hr => hnone r (hothers r hr)
  rw [List.append_nil] at hperm
  have htells : ∀ r ∈ journal, r.tellsAddition = true := fun r hr =>
    (List.mem_filter.mp (hperm.mem_iff.mpr hr)).2
  have hsub : journal.Sublist (o.reports.filter (·.tellsAddition)) := by
    rw [← List.filter_eq_self.mpr htells]
    exact h.sublist.filter _
  rw [← hsub.eq_of_length hperm.length_eq.symm]
  exact h.replay

end Outcome.KeepsJournal

/-! ## §2 The journal of an analysis -/

/-- A report that an analysis passes on from one of the rules, and that
claims an addition. -/
def Analyzer.PassesOnAddition (a : Analyzer) (r : Diagnostic) : Prop :=
  ∃ rule ∈ a.rules, ∃ m x, rule m = .ok x ∧
    ∃ w ∈ x.diagnostics, w.tellsAddition = true ∧ ∃ c, w.forComponent c = r

/-- The journal of what rules derived for a component. -/
def journalOf (c : String) (rs : List Derivation) : List Diagnostic :=
  rs.flatMap fun x => x.dependencies.map (addedReport (some c) x.rule)

theorem mapM_addition?_journalOf (c : String) (rs : List Derivation) :
    (journalOf c rs).mapM Diagnostic.addition? = some (rs.flatMap Derivation.additions) := by
  have hone : ∀ x : Derivation,
      (x.dependencies.map (addedReport (some c) x.rule)).mapM Diagnostic.addition? =
        some x.additions := by
    intro x
    rw [List.mapM_map]
    exact List.mapM_pure
  induction rs with
  | nil => rfl
  | cons x rest ih =>
    rw [journalOf] at ih
    rw [journalOf, List.flatMap_cons, List.mapM_append, hone, ih]
    rfl

theorem journalOf_sublist (c : String) (rs : List Derivation) :
    (journalOf c rs).Sublist (rs.flatMap (Derivation.reports (some c))) := by
  induction rs with
  | nil => exact List.Sublist.refl _
  | cons x rest ih => exact (List.sublist_append_left _ _).append ih

/-- What the rules gave is reported as the journal and as the rules' own
reports. -/
theorem filter_tellsAddition_reports (c : String) (rs : List Derivation) :
    ((rs.flatMap (Derivation.reports (some c))).filter (·.tellsAddition)).Perm
      (journalOf c rs ++ rs.flatMap fun x =>
        (x.diagnostics.map (·.forComponent c)).filter (·.tellsAddition)) := by
  have hone : ∀ x : Derivation, (x.reports (some c)).filter (·.tellsAddition) =
      x.dependencies.map (addedReport (some c) x.rule) ++
        (x.diagnostics.map (·.forComponent c)).filter (·.tellsAddition) := by
    intro x
    rw [Derivation.reports, List.filter_append, List.filter_eq_self.mpr]
    · rfl
    · intro r hr
      obtain ⟨y, -, rfl⟩ := List.mem_map.mp hr
      rfl
  rw [List.filter_flatMap]
  simp only [hone]
  exact (List.flatMap_append_perm rs _ _).symm

theorem Analyzer.keepsJournal_analyze (a : Analyzer) (c : String) (d : DependencySet) :
    ∃ journal, (a.analyze c d).KeepsJournal a.PassesOnAddition d journal := by
  rw [a.analyze_eq_outcome]
  have htakes := a.takes_course c
  cases hk : a.course c with
  | exempt => exact ⟨[], .of_unchanged (by simp)⟩
  | missing => exact ⟨[], .of_unchanged (by simp [notFoundReport, Diagnostic.tellsAddition])⟩
  | malformed fault =>
    exact ⟨[], .of_unchanged (by simp [parseErrorReport, Diagnostic.tellsAddition])⟩
  | failed f => exact ⟨[], .of_unchanged (by simp [failedReport, Diagnostic.tellsAddition])⟩
  | derived rs =>
    rw [hk] at htakes
    cases htakes with
    | @derived m _ _ _ hall =>
      rw [Course.outcome, Outcome.foldl_addDerivation, List.nil_append]
      refine ⟨journalOf c rs, journalOf_sublist c rs,
        ⟨_, filter_tellsAddition_reports c rs, ?_⟩, _, mapM_addition?_journalOf c rs, rfl⟩
      intro r hr
      obtain ⟨x, hx, hr⟩ := List.mem_flatMap.mp hr
      obtain ⟨hr, htells⟩ := List.mem_filter.mp hr
      obtain ⟨w, hw, rfl⟩ := List.mem_map.mp hr
      obtain ⟨rule, hrule, hok⟩ := exists_rule_of_mem hall hx
      exact ⟨rule, hrule, m, x, hok, w, hw, htells, c, rfl⟩

theorem Analyzer.keepsJournal_analyzeAll (a : Analyzer) (cs : List String) (d : DependencySet) :
    ∃ journal, (a.analyzeAll cs d).KeepsJournal a.PassesOnAddition d journal := by
  induction cs using List.reverseRecOn with
  | nil => exact ⟨[], .of_unchanged (by simp)⟩
  | append_singleton rest c ih =>
    obtain ⟨journal, hrest⟩ := ih
    obtain ⟨more, hc⟩ := a.keepsJournal_analyze c (a.analyzeAll rest d).dependencies
    rw [analyzeAll_concat]
    exact ⟨journal ++ more, hrest.andThen hc⟩

/-! ## §3 Runs of calls -/

/-- A call on an analyzer. Calls that overlap are one batch without a
limit. -/
inductive Call where
  | one (component : String)
  | batch (components : List String) (maxConcurrency : Option Int)

/-- What calls, one after the other, can leave behind. -/
inductive Analyzer.Runs (a : Analyzer) : List Call → DependencySet → Outcome → Prop where
  | nil {d : DependencySet} : Runs a [] d ⟨d, []⟩
  | one {c : String} {calls : List Call} {d : DependencySet} {o : Outcome} :
      Runs a calls (a.analyze c d).dependencies o →
      Runs a (.one c :: calls) d ((a.analyze c d).andThen fun _ => o)
  | batch {cs : List String} {k : Option Int} {calls : List Call} {d : DependencySet}
      {first o : Outcome} : a.Ends k cs d first → Runs a calls first.dependencies o →
      Runs a (.batch cs k :: calls) d (first.andThen fun _ => o)

/-- All calls can be made. -/
theorem Analyzer.exists_runs (a : Analyzer) (calls : List Call) (d : DependencySet) :
    ∃ o, a.Runs calls d o := by
  induction calls generalizing d with
  | nil => exact ⟨_, .nil⟩
  | cons call rest ih =>
    cases call with
    | one c =>
      obtain ⟨o, ho⟩ := ih (a.analyze c d).dependencies
      exact ⟨_, .one ho⟩
    | batch cs k =>
      obtain ⟨o, ho⟩ := ih (a.analyzeAll cs d).dependencies
      exact ⟨_, .batch (a.ends_analyzeAll k cs d) ho⟩

/-- **Run lemma**: every run keeps a journal. -/
theorem Analyzer.Runs.keepsJournal {a : Analyzer} {calls : List Call} {d : DependencySet}
    {o : Outcome} (h : a.Runs calls d o) :
    ∃ journal, o.KeepsJournal a.PassesOnAddition d journal := by
  induction h with
  | nil => exact ⟨[], .of_unchanged (by simp)⟩
  | @one c calls d o _ ih =>
    obtain ⟨journal, hc⟩ := a.keepsJournal_analyze c d
    obtain ⟨more, hrest⟩ := ih
    exact ⟨journal ++ more, hc.andThen hrest⟩
  | @batch cs k calls d first o hends _ ih =>
    obtain ⟨order, -, rfl⟩ := exists_perm_of_ends hends
    obtain ⟨journal, hbatch⟩ := a.keepsJournal_analyzeAll order d
    obtain ⟨more, hrest⟩ := ih
    exact ⟨journal ++ more, hbatch.andThen hrest⟩

/-! ## §4 Rules that report what they skip -/

/-- No rule itself reports that something was added. -/
def Analyzer.LeavesJournalAlone (a : Analyzer) : Prop :=
  a.RulesReport fun w => w.tellsAddition = false

theorem Analyzer.LeavesJournalAlone.not_passesOn {a : Analyzer} (h : a.LeavesJournalAlone)
    (r : Diagnostic) : ¬ a.PassesOnAddition r := by
  rintro ⟨rule, hrule, m, x, hok, w, hw, htells, -⟩
  rw [h rule hrule m x hok w hw] at htells
  cases htells

/-- The default rules report only what they skip. -/
theorem Analyzer.UsesDefaultRules.leavesJournalAlone {a : Analyzer} (h : a.UsesDefaultRules) :
    a.LeavesJournalAlone :=
  h.rulesReport fun _ w hw => by cases hw <;> rfl

/-- **Journal**: any calls can be made, and whatever they come to, for
components of any kind and with any rules, the reports of the additions
that were made, in their order, are a journal of the dependencies: made
once more on what was there before they give what is there now, strengths
and order included. No other report tells of an addition, but for those
that a rule itself made up. Where no rule does so, and the default rules
and rules that fail do not, the journal is every report of an addition, and
each of them can be read. -/
theorem journal_replays_run (a : Analyzer) (calls : List Call) (d : DependencySet) :
    (∃ o, a.Runs calls d o) ∧
      (∀ o, a.Runs calls d o →
        (∃ journal, o.KeepsJournal a.PassesOnAddition d journal) ∧
          (a.LeavesJournalAlone → ∃ xs,
            (o.reports.filter (·.tellsAddition)).mapM Diagnostic.addition? = some xs ∧
              d.addAll xs = o.dependencies)) ∧
      (a.UsesDefaultRules → a.LeavesJournalAlone) := by
  refine ⟨a.exists_runs calls d, fun o ho => ⟨ho.keepsJournal, fun halone => ?_⟩,
    fun h => h.leavesJournalAlone⟩
  obtain ⟨journal, hjournal⟩ := ho.keepsJournal
  exact hjournal.replay_of_not_foreign halone.not_passesOn

/-- A rule that derives nothing reports that it did: the reports of additions,
made once more, add a module that was never added. -/
theorem journal_holds_addition_never_made :
    let own : Diagnostic := ⟨.verbose, .dependencyAdded,
      [("rule", .str "own"), ("module", .str "x.js"), ("conditional", .value (.bool false))]⟩
    let a : Analyzer :=
      { pool := .ofTable [("my/manifest.json", .text "\x7b\x7d")]
        rules := [fun _ => .ok { rule := "own", diagnostics := [own] }] }
    let o := a.analyze "my/Component.js" .empty
    (o.reports.filter (·.tellsAddition)).mapM Diagnostic.addition? = some [("x.js", false)] ∧
      (DependencySet.empty.addAll [("x.js", false)]).entries = [("x.js", .required)] ∧
      o.dependencies.entries = [] := by
  decide +kernel

end ManifestDeps
