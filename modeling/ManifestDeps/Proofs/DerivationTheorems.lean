/-
ManifestDeps.Proofs.DerivationTheorems — what the default rules can give.

A default rule never fails (`deriveAll_defaultRules`), and what it warns of
is one of seven shapes (`RuleWarning`, `ruleWarning_of_mem_diagnostics`).
Everything that is said about the warnings of the default rules is a case
analysis on these shapes: a warning is never about a component
(`RuleWarning.lookup_component`), which is why the analysis may put the
component in front.
-/
import Mathlib.Data.List.Forall2
import ManifestDeps.Analysis

namespace ManifestDeps

open Json (Value)
open TargetView (nonEmpty?)

/-! ## §1 Findings -/

theorem Derivation.mem_dependencies_ofFindings {rule : String} {fs : List Finding}
    {d : DerivedDependency} :
    d ∈ (ofFindings rule fs).dependencies ↔ .dependency d ∈ fs := by
  simp only [ofFindings, List.mem_filterMap]
  constructor
  · rintro ⟨f, hf, hd⟩
    cases f with
    | dependency x => cases hd; exact hf
    | warning w => cases hd
  · intro h
    exact ⟨.dependency d, h, rfl⟩

theorem Derivation.mem_diagnostics_ofFindings {rule : String} {fs : List Finding}
    {w : Diagnostic} :
    w ∈ (ofFindings rule fs).diagnostics ↔ .warning w ∈ fs := by
  simp only [ofFindings, List.mem_filterMap]
  constructor
  · rintro ⟨f, hf, hw⟩
    cases f with
    | dependency x => cases hw
    | warning x => cases hw; exact hf
  · intro h
    exact ⟨.warning w, h, rfl⟩

theorem Derivation.mem_additions_ofFindings {rule : String} {fs : List Finding}
    {module : String} {conditional : Bool} :
    (module, conditional) ∈ (ofFindings rule fs).additions ↔
      .dependency ⟨module, conditional⟩ ∈ fs := by
  rw [← @mem_dependencies_ofFindings rule, additions, List.mem_map]
  constructor
  · rintro ⟨x, hx, he⟩
    cases he
    exact hx
  · intro h
    exact ⟨_, h, rfl⟩

theorem Derivation.dependencies_ofFindings_append (rule : String) (fs gs : List Finding) :
    (ofFindings rule (fs ++ gs)).dependencies =
      (ofFindings rule fs).dependencies ++ (ofFindings rule gs).dependencies :=
  List.filterMap_append

theorem Derivation.diagnostics_ofFindings_append (rule : String) (fs gs : List Finding) :
    (ofFindings rule (fs ++ gs)).diagnostics =
      (ofFindings rule fs).diagnostics ++ (ofFindings rule gs).diagnostics :=
  List.filterMap_append

/-! ## §2 The rule for models -/

/-- What one model implies. -/
def Manifest.modelFinding (m : Manifest) (model : String) : Finding :=
  match m.modelClass model with
  | .ok type => .dependency { module := ModuleName.ofDotted type none }
  | .error d => .warning d

/-- An answer is settled: a class that has a name, and nothing is noted; or
no class, and one warning is noted. -/
inductive Derivation.Settled (d : Derivation) : Option String × Derivation → Prop where
  | named {type : String} : type ≠ "" → d.Settled (some type, d)
  | warned {w : Diagnostic} : w.severity = .warn → d.Settled (none, d.noting [w])

theorem Derivation.settled_warn (d : Derivation) (code : DiagnosticCode) (details : Context) :
    d.Settled (none, d.warn code details) :=
  .warned rfl

theorem DataSource.settled_inferClass (source : DataSource) (name model : String)
    (d : Derivation) : d.Settled (source.inferClass name model d) := by
  unfold inferClass
  dsimp only
  split
  · split
    · exact .named (by decide)
    · split
      · exact .named (by decide)
      · exact d.settled_warn _ _
  · split
    · exact .named (by decide)
    · split
      · exact .named (by decide)
      · exact d.settled_warn _ _

/-- **Each exit settles the answer.** -/
theorem Manifest.settled_inferClass (m : Manifest) (model : String) (d : Derivation) :
    d.Settled (m.inferClass model d) := by
  unfold inferClass
  dsimp only
  split
  · rename_i type htype
    obtain ⟨c, -, hc⟩ := Option.bind_eq_some_iff.mp htype
    exact .named (TargetView.nonEmpty?_eq_some_iff.mp hc).2
  · split
    · exact d.settled_warn _ _
    · split
      · exact d.settled_warn _ _
      · rename_i source _
        exact source.settled_inferClass _ model d

/-- The class on a data source, exit by exit. -/
theorem DataSource.modelClass_eq (source : DataSource) (name model : String) :
    source.modelClass name model =
      if (nonEmpty? source.type).getD defaultDataSourceType = "OData" then
        if source.version = .str "4.0" then .ok odataV4Model
        else if !source.version.isSet || source.version = .str "2.0" then .ok odataV2Model
        else .error (warning modelRuleName .unknownODataVersion
          [("odata_version", .value source.version), ("data_source", .str name),
            ("model", .str model)])
      else if (nonEmpty? source.type).getD defaultDataSourceType = "JSON" then .ok jsonModel
      else if (nonEmpty? source.type).getD defaultDataSourceType = "XML" then .ok xmlModel
      else .error (warning modelRuleName .unknownDataSourceType
        [("data_source_type", .str ((nonEmpty? source.type).getD defaultDataSourceType)),
          ("model", .str model)]) := by
  unfold modelClass inferClass
  dsimp only
  split_ifs <;> rfl

/-- The class of a model, exit by exit. -/
theorem Manifest.modelClass_eq (m : Manifest) (model : String) :
    m.modelClass model =
      match ((m.ui.models.getD []).lookup model).join.bind fun c => nonEmpty? c.type with
      | some type => .ok type
      | none =>
        match ((m.ui.models.getD []).lookup model).join.bind fun c => nonEmpty? c.dataSource with
        | none => .error (warning modelRuleName .modelTypeUndefined [("model", .str model)])
        | some name =>
          match m.dataSource? name with
          | none => .error (warning modelRuleName .dataSourceNotFound
              [("data_source", .str name), ("model", .str model)])
          | some source => source.modelClass name model := by
  unfold modelClass inferClass
  dsimp only
  cases ((m.ui.models.getD []).lookup model).join.bind fun c => nonEmpty? c.type with
  | some type => rfl
  | none =>
    cases ((m.ui.models.getD []).lookup model).join.bind fun c => nonEmpty? c.dataSource with
    | none => rfl
    | some name =>
      dsimp only
      cases m.dataSource? name <;> rfl

/-- Take note of a class, or of the warning about there being none. -/
def Derivation.settle (d : Derivation) : Except Diagnostic String → Option String × Derivation
  | .ok type => (some type, d)
  | .error w => (none, d.noting [w])

theorem DataSource.inferClass_eq (source : DataSource) (name model : String) {d : Derivation}
    (hd : d.rule = modelRuleName) :
    source.inferClass name model d = d.settle (source.modelClass name model) := by
  rw [modelClass_eq]
  unfold inferClass Derivation.warn
  rw [hd]
  dsimp only
  split_ifs <;> rfl

/-- In the course of the rule, the step finds the class of the model, or
notes why there is none. -/
theorem Manifest.inferClass_eq (m : Manifest) (model : String) {d : Derivation}
    (hd : d.rule = modelRuleName) :
    m.inferClass model d = d.settle (m.modelClass model) := by
  rw [modelClass_eq]
  unfold inferClass Derivation.warn
  rw [hd]
  dsimp only
  cases ((m.ui.models.getD []).lookup model).join.bind fun c => nonEmpty? c.type with
  | some type => rfl
  | none =>
    cases ((m.ui.models.getD []).lookup model).join.bind fun c => nonEmpty? c.dataSource with
    | none => rfl
    | some name =>
      dsimp only
      cases m.dataSource? name with
      | none => rfl
      | some source => exact source.inferClass_eq name model hd

/-- Add some findings behind what is there. -/
def Derivation.adding (d : Derivation) (fs : List Finding) : Derivation where
  rule := d.rule
  dependencies := d.dependencies ++ (ofFindings d.rule fs).dependencies
  diagnostics := d.diagnostics ++ (ofFindings d.rule fs).diagnostics

theorem Derivation.adding_append (d : Derivation) (fs gs : List Finding) :
    d.adding (fs ++ gs) = (d.adding fs).adding gs := by
  simp only [adding, dependencies_ofFindings_append, diagnostics_ofFindings_append,
    List.append_assoc]

/-- **Step lemma**: going on with a model adds what is found for it. -/
theorem Manifest.requireClass_eq (m : Manifest) (model : String) {d : Derivation}
    (hd : d.rule = modelRuleName) : m.requireClass d model = d.adding [m.modelFinding model] := by
  have hsettled := m.settled_inferClass model d
  rw [requireClass, modelFinding]
  rw [m.inferClass_eq model hd] at hsettled ⊢
  cases hclass : m.modelClass model with
  | ok type =>
    rw [hclass] at hsettled
    have hne : type ≠ "" := by
      cases hsettled with
      | named hne => exact hne
    simp [Derivation.settle, Derivation.require, Derivation.adding, Derivation.ofFindings, hne]
  | error w => simp [Derivation.settle, Derivation.noting, Derivation.adding, Derivation.ofFindings]

/-- **Run lemma**: going on with models adds what is found for each. -/
theorem Manifest.foldl_requireClass (m : Manifest)
    (models : List (String × Option ModelConfig)) {d : Derivation}
    (hd : d.rule = modelRuleName) :
    models.foldl (fun d e => m.requireClass d e.1) d =
      d.adding (models.map fun e => m.modelFinding e.1) := by
  induction models generalizing d with
  | nil => simp [Derivation.adding, Derivation.ofFindings]
  | cons e rest ih =>
    have hrule : (d.adding [m.modelFinding e.1]).rule = modelRuleName := hd
    rw [List.foldl_cons, m.requireClass_eq e.1 hd, ih hrule, ← Derivation.adding_append,
      List.singleton_append, List.map_cons]

/-- **The rule for models finds what each of them implies.** -/
theorem modelRule_eq (m : Manifest) :
    modelRule m =
      .ofFindings modelRuleName ((m.ui.models.getD []).map fun e => m.modelFinding e.1) :=
  m.foldl_requireClass _ rfl

/-! ## §3 The warnings of the default rules -/

/-- What a default rule can warn of in a manifest, with all that the warning
tells. -/
inductive RuleWarning (m : Manifest) : Diagnostic → Prop where
  | rootViewNameMissing : RuleWarning m (warning rootViewRuleName .rootViewNameMissing [])
  | componentUsageNameMissing (usage : String) :
      RuleWarning m (warning componentUsageRuleName .componentUsageNameMissing
        [("usage", .str usage)])
  | modelTypeUndefined (model : String) :
      RuleWarning m (warning modelRuleName .modelTypeUndefined [("model", .str model)])
  | dataSourceNotFound (source model : String) :
      RuleWarning m (warning modelRuleName .dataSourceNotFound
        [("data_source", .str source), ("model", .str model)])
  | unknownODataVersion {name : String} {source : DataSource} (model : String) :
      m.dataSource? name = some source →
      RuleWarning m (warning modelRuleName .unknownODataVersion
        [("odata_version", .value source.version), ("data_source", .str name),
          ("model", .str model)])
  | unknownDataSourceType (type model : String) :
      RuleWarning m (warning modelRuleName .unknownDataSourceType
        [("data_source_type", .str type), ("model", .str model)])
  | routingTargetViewTypeMissing (target : String) :
      RuleWarning m (warning routingRuleName .routingTargetViewTypeMissing
        [("target", .str target)])

/-- No warning of a default rule is about a component. -/
theorem RuleWarning.lookup_component {m : Manifest} {w : Diagnostic} (h : RuleWarning m w) :
    w.context.lookup "component" = none := by
  cases h <;> rfl

/-- A finding that warns does so in one of the seven shapes. -/
def Finding.WarnsByRule (m : Manifest) (f : Finding) : Prop :=
  ∀ w, f = .warning w → RuleWarning m w

section DefaultRules

variable {m : Manifest}

theorem Finding.warnsByRule_dependency (d : DerivedDependency) :
    (Finding.dependency d).WarnsByRule m := by
  intro w h
  cases h

theorem Finding.warnsByRule_warning {w : Diagnostic} (h : RuleWarning m w) :
    (Finding.warning w).WarnsByRule m := by
  intro x hx
  cases hx
  exact h

open Finding (warnsByRule_dependency warnsByRule_warning)

theorem ViewOptions.warnsByRule_finding (o : ViewOptions) : o.finding.WarnsByRule m := by
  unfold ViewOptions.finding
  split
  · exact warnsByRule_warning .rootViewNameMissing
  · exact warnsByRule_dependency _

theorem warnsByRule_rootViewFindings (m : Manifest) :
    ∀ f ∈ rootViewFindings m, f.WarnsByRule m := by
  intro f hf
  unfold rootViewFindings at hf
  split at hf
  · cases hf
  · split at hf
    · cases hf
    · rw [List.mem_singleton.mp hf]
      exact ViewOptions.warnsByRule_finding _
  · rw [List.mem_singleton.mp hf]
    exact ViewOptions.warnsByRule_finding _

theorem warnsByRule_usageFinding (entry : String × Option ComponentUsage) :
    (usageFinding entry).WarnsByRule m := by
  unfold usageFinding
  split
  · exact warnsByRule_warning (.componentUsageNameMissing entry.1)
  · exact warnsByRule_dependency _

theorem DataSource.ruleWarning_of_modelClass {source : DataSource} {name model : String}
    {w : Diagnostic} (hsource : m.dataSource? name = some source)
    (h : source.modelClass name model = .error w) : RuleWarning m w := by
  rw [DataSource.modelClass_eq] at h
  split at h
  · split at h
    · cases h
    · split at h
      · cases h
      · cases h
        exact .unknownODataVersion model hsource
  · split at h
    · cases h
    · split at h
      · cases h
      · cases h
        exact .unknownDataSourceType _ model

theorem Manifest.ruleWarning_of_modelClass {model : String} {w : Diagnostic}
    (h : m.modelClass model = .error w) : RuleWarning m w := by
  rw [Manifest.modelClass_eq] at h
  split at h
  · cases h
  · split at h
    · cases h
      exact .modelTypeUndefined model
    · split at h
      · cases h
        exact .dataSourceNotFound _ model
      · rename_i source hsource
        exact DataSource.ruleWarning_of_modelClass hsource h

theorem Manifest.warnsByRule_modelFinding (m : Manifest) (model : String) :
    (m.modelFinding model).WarnsByRule m := by
  unfold Manifest.modelFinding
  split
  · exact warnsByRule_dependency _
  · rename_i d hd
    exact warnsByRule_warning (ruleWarning_of_modelClass hd)

theorem Routing.warnsByRule_classFindings (r : Routing) :
    ∀ f ∈ r.classFindings, f.WarnsByRule m := by
  intro f hf
  unfold Routing.classFindings at hf
  split at hf
  · rw [List.mem_singleton.mp hf]
    exact warnsByRule_dependency _
  · split at hf
    · simp only [List.mem_cons, List.not_mem_nil, or_false] at hf
      rcases hf with rfl | rfl
      · exact warnsByRule_dependency _
      · exact warnsByRule_dependency _
    · cases hf

theorem warnsByRule_targetFindings (defaults : Option RoutingDefaults)
    (entry : String × Option RoutingTarget) :
    ∀ f ∈ targetFindings defaults entry, f.WarnsByRule m := by
  intro f hf
  unfold targetFindings at hf
  split at hf
  · cases hf
  · dsimp only at hf
    split at hf
    · rw [List.mem_singleton.mp hf]
      exact warnsByRule_dependency _
    · rw [List.mem_singleton.mp hf]
      exact warnsByRule_warning (.routingTargetViewTypeMissing entry.1)

theorem Derivation.ruleWarning_ofFindings {rule : String} {fs : List Finding}
    (h : ∀ f ∈ fs, f.WarnsByRule m) {w : Diagnostic}
    (hw : w ∈ (ofFindings rule fs).diagnostics) : RuleWarning m w :=
  h _ (mem_diagnostics_ofFindings.mp hw) w rfl

/-! ## §4 All default rules -/

/-- The outcomes of the default rules, in their order. -/
def Manifest.derivations (m : Manifest) : List Derivation :=
  [rootViewRule m, libraryRule m, componentRule m, componentUsageRule m, modelRule m,
    routingRule m]

/-- What the default rules add together. -/
def Manifest.additions (m : Manifest) : List (String × Bool) :=
  m.derivations.flatMap Derivation.additions

/-- The default rules never fail. -/
@[simp] theorem deriveAll_defaultRules (m : Manifest) :
    deriveAll defaultRules m = .ok m.derivations := rfl

/-- **Inversion**: a default rule warns in one of the seven shapes. -/
theorem ruleWarning_of_mem_diagnostics {m : Manifest} {x : Derivation}
    (hx : x ∈ m.derivations) {w : Diagnostic} (hw : w ∈ x.diagnostics) : RuleWarning m w := by
  simp only [Manifest.derivations, List.mem_cons, List.not_mem_nil, or_false] at hx
  rcases hx with rfl | rfl | rfl | rfl | rfl | rfl
  · exact Derivation.ruleWarning_ofFindings (warnsByRule_rootViewFindings m) hw
  · refine Derivation.ruleWarning_ofFindings (fun f hf => ?_) hw
    obtain ⟨e, -, rfl⟩ := List.mem_map.mp hf
    exact warnsByRule_dependency _
  · refine Derivation.ruleWarning_ofFindings (fun f hf => ?_) hw
    obtain ⟨e, -, rfl⟩ := List.mem_map.mp hf
    exact warnsByRule_dependency _
  · refine Derivation.ruleWarning_ofFindings (fun f hf => ?_) hw
    obtain ⟨e, -, rfl⟩ := List.mem_map.mp hf
    exact warnsByRule_usageFinding e
  · rw [modelRule_eq] at hw
    refine Derivation.ruleWarning_ofFindings (fun f hf => ?_) hw
    obtain ⟨e, -, rfl⟩ := List.mem_map.mp hf
    exact m.warnsByRule_modelFinding e.1
  · refine Derivation.ruleWarning_ofFindings (fun f hf => ?_) hw
    split at hf
    · cases hf
    · rcases List.mem_append.mp hf with hf | hf
      · exact Routing.warnsByRule_classFindings _ f hf
      · obtain ⟨e, -, hf⟩ := List.mem_flatMap.mp hf
        exact warnsByRule_targetFindings _ e f hf

/-- A default rule gives one of the six outcomes. -/
theorem mem_derivations_of_defaultRule {rule : Rule} (hr : rule ∈ defaultRules)
    {m : Manifest} {x : Derivation} (hx : rule m = .ok x) : x ∈ m.derivations := by
  simp only [defaultRules, List.mem_cons, List.not_mem_nil, or_false] at hr
  rcases hr with rfl | rfl | rfl | rfl | rfl | rfl <;> cases hx <;>
    simp [Manifest.derivations]

end DefaultRules

/-! ## §5 Any rules -/

section AnyRules

variable {rules : List Rule} {rule : Rule} {m : Manifest}

@[simp] theorem deriveAll_nil (m : Manifest) : deriveAll [] m = .ok [] := rfl

theorem deriveAll_cons_of_error {f : Failure} (h : rule m = .error f) :
    deriveAll (rule :: rules) m = .error f := by
  simp [deriveAll, List.mapM_cons, h, bind, Except.bind]

theorem deriveAll_cons_of_ok {d : Derivation} (h : rule m = .ok d) :
    deriveAll (rule :: rules) m = (deriveAll rules m).map (d :: ·) := by
  simp only [deriveAll, List.mapM_cons, h, bind, Except.bind, pure, Except.pure]
  cases List.mapM (fun rule => rule m) rules <;> rfl

/-- All rules give an outcome when each of them does. -/
theorem deriveAll_eq_ok_iff {rs : List Derivation} :
    deriveAll rules m = .ok rs ↔ List.Forall₂ (fun rule d => rule m = .ok d) rules rs := by
  induction rules generalizing rs with
  | nil => cases rs <;> simp
  | cons first rest ih =>
    cases hf : first m with
    | error f =>
      rw [deriveAll_cons_of_error hf]
      cases rs <;> simp [hf]
    | ok d =>
      rw [deriveAll_cons_of_ok hf]
      cases hr : deriveAll rest m with
      | error f => cases rs <;> simp [hf, ← ih, hr, Except.map]
      | ok later => cases rs <;> simp [hf, ← ih, hr, Except.map]

/-- Every outcome is that of one of the rules. -/
theorem exists_rule_of_mem {rs : List Derivation}
    (h : List.Forall₂ (fun rule d => rule m = .ok d) rules rs) {d : Derivation}
    (hd : d ∈ rs) : ∃ rule ∈ rules, rule m = .ok d := by
  induction h with
  | nil => cases hd
  | cons hfirst _ ih =>
    rcases List.mem_cons.mp hd with rfl | hd
    · exact ⟨_, List.mem_cons_self, hfirst⟩
    · obtain ⟨rule, hrule, hok⟩ := ih hd
      exact ⟨rule, List.mem_cons_of_mem _ hrule, hok⟩

/-- Behind rules that give an outcome, one that fails ends it. -/
theorem deriveAll_append_of_error {before after : List Rule} {f : Failure}
    (hb : ∀ r ∈ before, ∃ d, r m = .ok d) (h : rule m = .error f) :
    deriveAll (before ++ rule :: after) m = .error f := by
  induction before with
  | nil => exact deriveAll_cons_of_error h
  | cons first before ih =>
    obtain ⟨d, hd⟩ := hb first List.mem_cons_self
    rw [List.cons_append, deriveAll_cons_of_ok hd,
      ih fun r hr => hb r (List.mem_cons_of_mem _ hr)]
    rfl

/-- Rules fail as the first of them that fails. -/
theorem deriveAll_eq_error_iff {f : Failure} :
    deriveAll rules m = .error f ↔
      ∃ before rule after, rules = before ++ rule :: after ∧
        (∀ r ∈ before, ∃ d, r m = .ok d) ∧ rule m = .error f := by
  constructor
  · intro h
    induction rules with
    | nil => cases h
    | cons first rest ih =>
      cases hf : first m with
      | error g =>
        rw [deriveAll_cons_of_error hf] at h
        cases h
        exact ⟨[], first, rest, rfl, by simp, hf⟩
      | ok d =>
        rw [deriveAll_cons_of_ok hf] at h
        cases hr : deriveAll rest m with
        | error g =>
          rw [hr] at h
          cases h
          obtain ⟨before, rule, after, rfl, hb, hrule⟩ := ih hr
          refine ⟨first :: before, rule, after, rfl, ?_, hrule⟩
          intro r hmem
          rcases List.mem_cons.mp hmem with rfl | hmem
          · exact ⟨d, hf⟩
          · exact hb r hmem
        | ok later =>
          rw [hr] at h
          cases h
  · rintro ⟨before, rule, after, rfl, hb, hrule⟩
    exact deriveAll_append_of_error hb hrule

end AnyRules

end ManifestDeps
