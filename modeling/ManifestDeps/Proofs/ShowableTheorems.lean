/-
ManifestDeps.Proofs.ShowableTheorems — what the default rules report can be
written.

A report holds whatever a rule has put there, and an integer with too many
digits cannot be written out. The reader refuses such integers
(`Content.readJson_isShowable`), so the version of a data source, which is
the one value of any kind that a manifest keeps for a report, can be written
(`Manifest.showsVersions_of_parse`). All else that a default rule tells is
text. So every report of an analysis with default rules can be written, on
whatever pool (`Analyzer.UsesDefaultRules.isShowable`).

The versions are followed through the decoder by what each check gives for a
value that can be written (`Check.Gives`), one lemma for each kind of check.
-/
import ManifestDeps.Proofs.ReaderTheorems
import ManifestDeps.Proofs.ReportTheorems

namespace ManifestDeps

open Json (Value)

/-! ## §1 Versions -/

namespace Check

variable {α : Type} {c : Check α} {Q : α → Prop} {place : Place}
  {ms : List (String × Value)}

/-- What a check gives for a value that can be written has a property. -/
def Gives (c : Check α) (Q : α → Prop) : Prop :=
  ∀ ⦃place v a⦄, v.isShowable = true → c place v = .ok a → Q a

theorem Gives.nullable (h : c.Gives Q) : c.nullable.Gives fun a? => ∀ a ∈ a?, Q a := by
  intro place v a? hv hc
  unfold Check.nullable at hc
  split at hc
  · cases hc
    simp
  · obtain ⟨a, ha, rfl⟩ := Checked.map_eq_ok_iff.mp hc
    simpa using h hv ha

theorem isShowable_of_find? (hms : ∀ m ∈ ms, m.2.isShowable = true) {f : FieldName}
    {m : String × Value} (h : f.find? ms = some m) : m.2.isShowable = true := by
  unfold FieldName.find? at h
  split at h
  · rename_i hlookup
    cases h
    exact hms _ (Table.mem_of_lookup hlookup)
  · obtain ⟨v, hlookup, rfl⟩ := Option.map_eq_some_iff.mp h
    exact hms _ (Table.mem_of_lookup hlookup)

theorem Gives.field (h : c.Gives Q) (hms : ∀ m ∈ ms, m.2.isShowable = true) {f : FieldName}
    {a? : Option α} (hc : c.field f place ms = .ok a?) : ∀ a ∈ a?, Q a := by
  unfold Check.field at hc
  split at hc
  · cases hc
    simp
  · rename_i hfind
    exact h.nullable (isShowable_of_find? hms hfind) hc

theorem Gives.section (h : c.Gives Q) (hms : ∀ m ∈ ms, m.2.isShowable = true)
    {missing a : α} (hmissing : Q missing) {f : FieldName}
    (hc : c.section missing f ms = .ok a) : Q a := by
  unfold Check.section at hc
  split at hc
  · cases hc
    exact hmissing
  · rename_i hfind
    exact h (isShowable_of_find? hms hfind) hc

theorem Gives.members (h : c.Gives Q) (hms : ∀ m ∈ ms, m.2.isShowable = true)
    {as : List (String × α)} (hc : c.members place ms = .ok as) : ∀ e ∈ as, Q e.2 := by
  induction ms generalizing as with
  | nil => cases hc; simp
  | cons m rest ih =>
    rw [List.forall_mem_cons] at hms
    obtain ⟨g, bs, hg, hbs, rfl⟩ := Checked.seq_eq_ok_iff.mp hc
    obtain ⟨a, ha, rfl⟩ := Checked.map_eq_ok_iff.mp hg
    exact List.forall_mem_cons.mpr ⟨h hms.1 ha, ih hms.2 hbs⟩

theorem Gives.table (h : c.Gives Q) : c.table.Gives fun t => ∀ e ∈ t, Q e.2 := by
  intro place v t hv hc
  unfold Check.table at hc
  split at hc
  · rw [Value.isShowable, Value.membersShowable_eq_all, List.all_eq_true] at hv
    exact h.members hv hc
  · cases hc

theorem gives_record {kind : String} {fields : Place → List (String × Value) → Checked α}
    (h : ∀ place ms a, (∀ m ∈ ms, m.2.isShowable = true) → fields place ms = .ok a → Q a) :
    (Check.record kind fields).Gives Q := by
  intro place v a hv hc
  unfold Check.record at hc
  split at hc
  · rw [Value.isShowable, Value.membersShowable_eq_all, List.all_eq_true] at hv
    exact h _ _ a hv hc
  · cases hc

theorem gives_any : any.Gives fun v => v.isShowable = true := by
  intro place v a hv hc
  cases hc
  exact hv

end Check

/-- The version of a data source can be written. -/
def DataSource.ShowsVersion (source : DataSource) : Prop :=
  source.version.isShowable = true

/-- The versions of all data sources can be written. -/
def Manifest.ShowsVersions (m : Manifest) : Prop :=
  ∀ name source, m.dataSource? name = some source → source.ShowsVersion

theorem DataSourceSettings.gives_check :
    check.Gives fun s => s.odataVersion.isShowable = true := by
  refine Check.gives_record fun place ms s hms h => ?_
  obtain ⟨v?, hv, rfl⟩ := Checked.map_eq_ok_iff.mp h
  have hshow := Check.gives_any.field hms hv
  cases v? with
  | none => rfl
  | some v => exact hshow v rfl

theorem DataSource.gives_check : check.Gives ShowsVersion := by
  refine Check.gives_record fun place ms s hms h => ?_
  obtain ⟨g, settings?, hg, hsettings, rfl⟩ := Checked.seq_eq_ok_iff.mp h
  obtain ⟨type?, -, rfl⟩ := Checked.map_eq_ok_iff.mp hg
  have hshow := DataSourceSettings.gives_check.field hms hsettings
  cases settings? with
  | none => rfl
  | some settings => exact hshow settings rfl

theorem AppSection.gives_check :
    check.Gives fun s => ∀ t ∈ s.dataSources, ∀ e ∈ t, DataSource.ShowsVersion e.2 := by
  refine Check.gives_record fun place ms s hms h => ?_
  obtain ⟨sources?, hsources, rfl⟩ := Checked.map_eq_ok_iff.mp h
  exact DataSource.gives_check.table.field hms hsources

/-- **The versions in a manifest can be written.** -/
theorem Manifest.showsVersions_of_parse {name : String} {content : Content} {m : Manifest}
    (h : Manifest.parse name content = .ok m) : m.ShowsVersions := by
  obtain ⟨ms, hread, hm⟩ := Manifest.exists_of_parse h
  have hshow := Content.readJson_isShowable hread
  rw [Value.isShowable, Value.membersShowable_eq_all, List.all_eq_true] at hshow
  rw [Manifest.ofJson] at hm
  split at hm
  · rename_i n hcheck
    cases hm
    obtain ⟨g, ui, hg, -, rfl⟩ := Checked.seq_eq_ok_iff.mp hcheck
    obtain ⟨app, happ, rfl⟩ := Checked.map_eq_ok_iff.mp hg
    have hkept : ∀ e ∈ ms.filter fun e => !isDroppedSection e, e.2.isShowable = true :=
      fun e he => hshow e (List.mem_filter.mp he).1
    have hversions := AppSection.gives_check.section hkept (by simp) happ
    intro name source hsource
    rw [Manifest.dataSource?] at hsource
    cases hsources : app.dataSources with
    | none => simp [hsources] at hsource
    | some t =>
      rw [hsources, Option.getD_some] at hsource
      exact hversions t hsources _ (Table.mem_of_lookup hsource)
  · cases hm

/-! ## §2 Reports -/

/-- A report can be written whose details can be. -/
theorem Diagnostic.isShowable_of_forall {d : Diagnostic}
    (h : ∀ e ∈ d.context, e.2.isShowable = true) : d.isShowable = true := by
  have hfills : ∀ ps, d.context.shows ps = true := by
    intro ps
    induction ps with
    | nil => rfl
    | cons p rest ih =>
      cases p with
      | text s => exact ih
      | field name =>
        rw [Context.shows]
        split
        · rename_i hlookup
          rw [h _ (Table.mem_of_lookup hlookup), ih, Bool.and_self]
        · exact List.all_eq_true.mpr h
  exact hfills _

/-- Details can be written, and so they can for a component. -/
theorem Diagnostic.forall_isShowable_forComponent {w : Diagnostic}
    (h : ∀ e ∈ w.context, e.2.isShowable = true) (c : String) :
    ∀ e ∈ (w.forComponent c).context, e.2.isShowable = true := by
  refine List.forall_mem_cons.mpr ⟨?_, fun e he => h e (List.mem_filter.mp he).1⟩
  cases hlookup : w.context.lookup "component" with
  | none => rfl
  | some d => exact h _ (Table.mem_of_lookup hlookup)

/-- What a default rule warns of can be written. -/
theorem RuleWarning.forall_isShowable {m : Manifest} {w : Diagnostic} (h : RuleWarning m w)
    (hm : m.ShowsVersions) : ∀ e ∈ w.context, e.2.isShowable = true := by
  cases h with
  | unknownODataVersion model hsource =>
    have hversion := hm _ _ hsource
    simp only [warning, List.forall_mem_cons]
    exact ⟨rfl, hversion, rfl, rfl, by simp⟩
  | _ => simp [warning, Detail.str, Detail.isShowable, Value.isShowable]

/-- **What is reported with default rules can be written**, whatever the pool
holds. -/
theorem Analyzer.UsesDefaultRules.isShowable {a : Analyzer} (h : a.UsesDefaultRules)
    {c : String} {r : Diagnostic} (hr : r ∈ a.reports c) : r.isShowable = true := by
  rw [Analyzer.reports, a.analyze_eq_outcome] at hr
  cases hk : a.course c with
  | exempt =>
    rw [hk] at hr
    cases hr
  | missing =>
    rw [hk] at hr
    rw [List.mem_singleton.mp hr]
    rfl
  | malformed fault =>
    rw [hk] at hr
    rw [List.mem_singleton.mp hr]
    rfl
  | failed f =>
    rw [hk] at hr
    rw [List.mem_singleton.mp hr]
    rfl
  | derived rs =>
    rw [hk, Course.outcome, Outcome.foldl_addDerivation, List.nil_append] at hr
    obtain ⟨x, hx, hr⟩ := List.mem_flatMap.mp hr
    rcases Derivation.mem_reports.mp hr with ⟨y, -, rfl⟩ | ⟨w, hw, rfl⟩
    · rfl
    · cases Analyzer.takes_iff.mpr hk with
      | @derived m _ _ hholds hall =>
        obtain ⟨rule, hrule, hok⟩ := exists_rule_of_mem hall hx
        obtain ⟨bytes, -, hparse⟩ := hholds
        rcases h rule hrule with hdefault | hfails
        · have hwarning :=
            ruleWarning_of_mem_diagnostics (mem_derivations_of_defaultRule hdefault hok) hw
          exact Diagnostic.isShowable_of_forall (Diagnostic.forall_isShowable_forComponent
            (hwarning.forall_isShowable (Manifest.showsVersions_of_parse hparse)) c)
        · obtain ⟨f, hf⟩ := hfails m
          rw [hf] at hok
          cases hok

end ManifestDeps
