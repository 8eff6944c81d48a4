/-
ManifestDeps.Proofs.RuleSafetyTheorems — no rule asks for what is not there.

Almost everything in a manifest may be missing, while turning a dotted name
into a path, lowering a view type and reading a field need something to work
on. The rules of the program take care of this by the shape of their cases.
Here they are written a second time with strict operations, which fail on
nothing (`need`), and with the tests that stand in front of them, sometimes
at a distance: whether a target has a view name is tested before it is merged
with the defaults, and what is used afterwards is the dotted name of the
merged view. One lemma for each rule shows that no strict operation fails,
and that the rule is the one the program has (`strictRules_eq`).

Since no rule fails, an analysis with the default rules fails in three ways
only: the descriptor cannot be looked up, it cannot be read, or its JSON is
beyond the limits of the reader (`analysisFailed_iff`).
-/
import ManifestDeps.Proofs.AccountingTheorems

namespace ManifestDeps

open Json (Value)
open TargetView (nonEmpty?)

/-! ## §1 Strict rules -/

namespace Strict

variable {α β : Type}

/-- Something that an operation works on; nothing will not do. -/
def need (what : String) : Option α → Except Failure α
  | some a => .ok a
  | none => .error (.rule ("no " ++ what))

/-- A field of something that has to be there. -/
def field (what : String) (f : α → β) (o : Option α) : Except Failure β :=
  (need what o).map f

/-- A field of something that is tested to be there. -/
def fieldOr (what : String) (f : α → β) (other : β) (o : Option α) : Except Failure β :=
  if o.isSome then field what f o else .ok other

/-- The path of a dotted name. -/
def path (name : Option String) (suffix : Option String) : Except Failure String :=
  (need "name" name).map (ModuleName.ofDotted · suffix)

/-- The path of a class, if its name is not empty. -/
def classPathOr (other : String) (name : Option String) : Except Failure String :=
  if (nonEmpty? name).isSome then (need "name" name).map ModuleName.ofClass else .ok other

/-- The suffix of a view type. -/
def viewSuffix (type : Option String) : Except Failure String :=
  (need "view type" type).map ModuleName.viewSuffix

/-- The first of two texts if it is not empty, else the second. -/
def orElse (a b : Option String) : Option String :=
  if (nonEmpty? a).isSome then a else b

/-- Derive the root view. -/
def rootViewRule : Rule := fun m => do
  match m.ui.rootView with
  | none => return .ofFindings rootViewRuleName []
  | some (.named "") => return .ofFindings rootViewRuleName []
  | some (.named s) => view { viewName := some s, type := some defaultViewType }
  | some (.options o) => view o
where
  /-- Derive the view of options. -/
  view (o : ViewOptions) : Except Failure Derivation := do
    if (nonEmpty? o.viewName).isNone then
      return .ofFindings rootViewRuleName
        [.warning (warning rootViewRuleName .rootViewNameMissing [])]
    let suffix ← viewSuffix (orElse o.type (some defaultViewType))
    let module ← path o.viewName (some suffix)
    return .ofFindings rootViewRuleName [.dependency { module := module }]

/-- Derive declared libraries or components. -/
def declaredRule (rule suffix : String) (declared : Option (Table (Option DependencyOptions))) :
    Except Failure Derivation := do
  let findings ← (declared.getD []).mapM fun entry => do
    let lazy ← fieldOr "options" DependencyOptions.lazy false entry.2
    let module ← path (some entry.1) (some suffix)
    return .dependency { module := module, conditional := lazy }
  return .ofFindings rule findings

/-- Derive the declared libraries. -/
def libraryRule : Rule := fun m => do
  declaredRule "library" librarySuffix
    (← fieldOr "dependencies" Declarations.libs none m.ui.dependencies)

/-- Derive the declared components. -/
def componentRule : Rule := fun m => do
  declaredRule "component" componentSuffix
    (← fieldOr "dependencies" Declarations.components none m.ui.dependencies)

/-- Derive the components that are used. -/
def componentUsageRule : Rule := fun m => do
  let findings ← (m.ui.componentUsages.getD []).mapM fun entry => do
    if (nonEmpty? (← fieldOr "usage" ComponentUsage.name none entry.2)).isNone then
      return .warning (warning componentUsageRuleName .componentUsageNameMissing
        [("usage", .str entry.1)])
    let name ← field "usage" ComponentUsage.name entry.2
    let module ← path name (some componentSuffix)
    let lazy ← field "usage" ComponentUsage.lazy entry.2
    return .dependency { module := module, conditional := lazy != some false }
  return .ofFindings componentUsageRuleName findings

/-- The class of a model on a data source. -/
def sourceClass (source : Option DataSource) (sourceName model : String) :
    Except Failure (Except Diagnostic String) := do
  let type ← need "type"
    (orElse (← field "data source" DataSource.type source) (some defaultDataSourceType))
  if type = "OData" then
    let settings ← field "data source" DataSource.settings source
    let version ← fieldOr "settings" DataSourceSettings.odataVersion .null settings
    if version = .str "4.0" then return .ok odataV4Model
    if !version.isSet || version = .str "2.0" then return .ok odataV2Model
    return .error (warning modelRuleName .unknownODataVersion
      [("odata_version", .value version), ("data_source", .str sourceName),
        ("model", .str model)])
  if type = "JSON" then return .ok jsonModel
  if type = "XML" then return .ok xmlModel
  return .error (warning modelRuleName .unknownDataSourceType
    [("data_source_type", .str type), ("model", .str model)])

/-- The class of a model of a manifest. -/
def modelClass (m : Manifest) (model : String) :
    Except Failure (Except Diagnostic String) := do
  let config := ((m.ui.models.getD []).lookup model).join
  let type ← fieldOr "model" ModelConfig.type none config
  if (nonEmpty? type).isSome then return .ok (← need "type" type)
  let sourceName ← fieldOr "model" ModelConfig.dataSource none config
  if (nonEmpty? sourceName).isNone then
    return .error (warning modelRuleName .modelTypeUndefined [("model", .str model)])
  let name ← need "data source name" sourceName
  if (m.dataSource? name).isNone then
    return .error (warning modelRuleName .dataSourceNotFound
      [("data_source", .str name), ("model", .str model)])
  sourceClass (m.dataSource? name) name model

/-- Derive the model classes. -/
def modelRule : Rule := fun m => do
  let findings ← (m.ui.models.getD []).mapM fun entry => do
    match ← modelClass m entry.1 with
    | .ok type => return .dependency { module := ← path (some type) none }
    | .error w => return .warning w
  return .ofFindings modelRuleName findings

/-- The classes that routing needs. -/
def classFindings (r : Routing) : Except Failure (List Finding) := do
  if r.routes.isSome then
    let router ← fieldOr "config" RoutingDefaults.routerClass none r.config
    let module ← path (orElse router (some defaultRouterClass)) none
    return [.dependency { module := module }]
  if r.targets.isSome then
    let name ← fieldOr "config" RoutingDefaults.targetsClass none r.config
    let module ← classPathOr defaultTargetsModule name
    return [.dependency { module := module }, .dependency { module := viewsModule }]
  return []

/-- What one target implies. -/
def targetFindings (defaults : Option RoutingDefaults)
    (entry : String × Option RoutingTarget) : Except Failure (List Finding) := do
  if (nonEmpty? (← fieldOr "target" RoutingTarget.viewName none entry.2)).isNone then return []
  let view ← field "target" (TargetView.merge defaults) entry.2
  if (nonEmpty? view.viewType).isNone then
    return [.warning (warning routingRuleName .routingTargetViewTypeMissing
      [("target", .str entry.1)])]
  let suffix ← viewSuffix view.viewType
  let module ← path view.qualifiedName? (some suffix)
  return [.dependency { module := module }]

/-- Derive the modules behind routing. -/
def routingRule : Rule := fun m => do
  match m.ui.routing with
  | none => return .ofFindings routingRuleName []
  | some r =>
    let classes ← classFindings r
    let views ← (r.targets.getD []).mapM (targetFindings r.config)
    return .ofFindings routingRuleName (classes ++ views.flatten)

/-- The rules, in the order in which they are used. -/
def rules : List Rule :=
  [rootViewRule, libraryRule, componentRule, componentUsageRule, modelRule, routingRule]

/-! ## §2 No strict operation fails -/

@[simp] theorem need_some (what : String) (a : α) : need what (some a) = .ok a := rfl

@[simp] theorem field_some (what : String) (f : α → β) (a : α) :
    field what f (some a) = .ok (f a) := rfl

theorem fieldOr_eq (what : String) (f : α → β) (other : β) (o : Option α) :
    fieldOr what f other o = .ok (o.elim other f) := by
  cases o <;> rfl

@[simp] theorem fieldOr_none (what : String) (f : α → Option β) (o : Option α) :
    fieldOr what f none o = .ok (o.bind f) := by
  cases o <;> rfl

@[simp] theorem path_some (name : String) (suffix : Option String) :
    path (some name) suffix = .ok (ModuleName.ofDotted name suffix) := rfl

@[simp] theorem viewSuffix_some (type : String) :
    viewSuffix (some type) = .ok (ModuleName.viewSuffix type) := rfl

/-- A text that was tested not to be empty is there. -/
theorem need_of_nonEmpty {what s : String} {t : Option String} (h : nonEmpty? t = some s) :
    need what t = .ok s := by
  rw [(TargetView.nonEmpty?_eq_some_iff.mp h).1]
  rfl

theorem path_of_nonEmpty {s : String} {t suffix : Option String} (h : nonEmpty? t = some s) :
    path t suffix = .ok (ModuleName.ofDotted s suffix) := by
  rw [path, need_of_nonEmpty h]
  rfl

theorem classPathOr_eq (other : String) (name : Option String) :
    classPathOr other name = .ok (((nonEmpty? name).map ModuleName.ofClass).getD other) := by
  rw [classPathOr]
  cases h : nonEmpty? name with
  | none => rfl
  | some s =>
    rw [need_of_nonEmpty h]
    rfl

theorem viewSuffix_of_nonEmpty {s : String} {t : Option String} (h : nonEmpty? t = some s) :
    viewSuffix t = .ok (ModuleName.viewSuffix s) := by
  rw [viewSuffix, need_of_nonEmpty h]
  rfl

/-- A choice with a default is there. -/
@[simp] theorem orElse_some (a : Option String) (b : String) :
    orElse a (some b) = some ((nonEmpty? a).getD b) := by
  unfold orElse
  cases h : nonEmpty? a with
  | none => rfl
  | some s => exact (TargetView.nonEmpty?_eq_some_iff.mp h).1

/-- Steps that do not fail give all their results. -/
theorem mapM_eq_ok {f : α → Except Failure β} {g : α → β} (h : ∀ a, f a = .ok (g a))
    (xs : List α) : xs.mapM f = .ok (xs.map g) := by
  rw [funext h]
  exact List.mapM_pure

@[simp] theorem bind_ok (a : α) (f : α → Except Failure β) : (Except.ok a >>= f) = f a := rfl

@[simp] theorem pure_eq_ok (a : α) : (pure a : Except Failure α) = .ok a := rfl

theorem view_eq (o : ViewOptions) :
    rootViewRule.view o = .ok (.ofFindings rootViewRuleName [o.finding]) := by
  rw [rootViewRule.view, ViewOptions.finding]
  cases hname : nonEmpty? o.viewName with
  | none => rfl
  | some name => simp [path_of_nonEmpty hname]

theorem rootViewRule_eq (m : Manifest) : rootViewRule m = .ok (ManifestDeps.rootViewRule m) := by
  rw [rootViewRule, ManifestDeps.rootViewRule, rootViewFindings]
  cases m.ui.rootView with
  | none => rfl
  | some v =>
    cases v with
    | named s =>
      by_cases hs : s = ""
      · subst hs
        rfl
      · simp [hs, view_eq]
    | options o => exact view_eq o

theorem declaredRule_eq (rule suffix : String)
    (declared : Option (Table (Option DependencyOptions))) :
    declaredRule rule suffix declared =
      .ok (.ofFindings rule ((declared.getD []).map (declarationFinding suffix))) := by
  rw [declaredRule, mapM_eq_ok (g := declarationFinding suffix)]
  · rfl
  · rintro ⟨name, options⟩
    cases options <;> rfl

theorem libraryRule_eq (m : Manifest) : libraryRule m = .ok (ManifestDeps.libraryRule m) := by
  rw [libraryRule, fieldOr_none, bind_ok, declaredRule_eq]
  rfl

theorem componentRule_eq (m : Manifest) :
    componentRule m = .ok (ManifestDeps.componentRule m) := by
  rw [componentRule, fieldOr_none, bind_ok, declaredRule_eq]
  rfl

theorem componentUsageRule_eq (m : Manifest) :
    componentUsageRule m = .ok (ManifestDeps.componentUsageRule m) := by
  rw [componentUsageRule, mapM_eq_ok (g := usageFinding)]
  · rfl
  · rintro ⟨key, usage⟩
    cases usage with
    | none => rfl
    | some u =>
      cases hname : nonEmpty? u.name with
      | none => simp [usageFinding, hname]
      | some name => simp [usageFinding, hname, path_of_nonEmpty hname]

theorem sourceClass_eq (source : DataSource) (name model : String) :
    sourceClass (some source) name model = .ok (source.modelClass name model) := by
  rw [sourceClass, DataSource.modelClass_eq, DataSource.version]
  simp only [field_some, bind_ok, orElse_some, need_some, fieldOr_eq, pure_eq_ok]
  split_ifs <;> rfl

theorem nonEmpty?_bind (o : Option α) (f : α → Option String) :
    nonEmpty? (o.bind f) = o.bind fun a => nonEmpty? (f a) := by
  cases o <;> rfl

theorem modelClass_eq (m : Manifest) (model : String) :
    modelClass m model = .ok (m.modelClass model) := by
  rw [modelClass, Manifest.modelClass_eq]
  generalize ((m.ui.models.getD []).lookup model).join = config
  simp only [fieldOr_none, bind_ok, ← nonEmpty?_bind]
  cases htype : nonEmpty? (config.bind ModelConfig.type) with
  | some type => simp [need_of_nonEmpty htype]
  | none =>
    cases hname : nonEmpty? (config.bind ModelConfig.dataSource) with
    | none => simp
    | some name =>
      cases hsource : m.dataSource? name with
      | none => simp [need_of_nonEmpty hname, hsource]
      | some source => simp [need_of_nonEmpty hname, hsource, sourceClass_eq]

theorem modelRule_eq (m : Manifest) : modelRule m = .ok (ManifestDeps.modelRule m) := by
  rw [ManifestDeps.modelRule_eq, modelRule, mapM_eq_ok (g := fun e => m.modelFinding e.1)]
  · rfl
  · intro e
    rw [modelClass_eq, bind_ok, Manifest.modelFinding]
    cases m.modelClass e.1 <;> rfl

theorem classFindings_eq (r : Routing) : classFindings r = .ok r.classFindings := by
  rw [classFindings, Routing.classFindings]
  simp only [fieldOr_none, bind_ok, orElse_some, path_some, classPathOr_eq, ← nonEmpty?_bind,
    pure_eq_ok]
  split_ifs
  · rfl
  · cases nonEmpty? (r.config.bind RoutingDefaults.targetsClass) <;> rfl
  · rfl

/-- **Targets**: the test of the view name stands in front of the merge, and
is good for the dotted name of the merged view. -/
theorem targetFindings_eq (defaults : Option RoutingDefaults)
    (entry : String × Option RoutingTarget) :
    targetFindings defaults entry = .ok (ManifestDeps.targetFindings defaults entry) := by
  obtain ⟨key, target⟩ := entry
  cases target with
  | none => rfl
  | some t =>
    cases hown : nonEmpty? t.viewName with
    | none => simp [targetFindings, ManifestDeps.targetFindings, Option.filter, hown]
    | some own =>
      obtain ⟨name, hname⟩ := TargetView.exists_qualifiedName? defaults (t := t) (by simp [hown])
      cases htype : nonEmpty? (TargetView.merge defaults t).viewType with
      | none => simp [targetFindings, ManifestDeps.targetFindings, Option.filter, hown, htype]
      | some type =>
        simp [targetFindings, ManifestDeps.targetFindings, Option.filter, hown, htype, hname,
          viewSuffix_of_nonEmpty htype]

theorem routingRule_eq (m : Manifest) : routingRule m = .ok (ManifestDeps.routingRule m) := by
  rw [routingRule, ManifestDeps.routingRule]
  cases m.ui.routing with
  | none => rfl
  | some r =>
    simp only [classFindings_eq, mapM_eq_ok (targetFindings_eq r.config), bind_ok, pure_eq_ok,
      List.flatMap_def]

/-- **No strict operation fails**: the strict rules are those that the
program has. -/
theorem rules_eq : rules = defaultRules := by
  rw [rules, defaultRules, funext rootViewRule_eq, funext libraryRule_eq, funext componentRule_eq,
    funext componentUsageRule_eq, funext modelRule_eq, funext routingRule_eq]

end Strict

/-! ## §3 What an analysis with the default rules can fail of -/

/-- What goes wrong before there is a manifest to evaluate. -/
inductive Pool.FailsBefore (pool : Pool) (c : String) : Failure → Prop where
  | lookup {f} (hfind : pool.find (ModuleName.descriptorOf c) = .error f)
      (hf : ∀ name, f ≠ .resourceNotFound name) : FailsBefore pool c f
  | reading {resource f} (hfind : pool.find (ModuleName.descriptorOf c) = .ok resource)
      (hread : resource.content = .error f) : FailsBefore pool c f
  | decoding {bytes e} (hreads : pool.Reads c bytes)
      (hjson : (Content.bytes bytes).readJson = .error (.inr e)) : FailsBefore pool c (.limit e)

/-- Reading a manifest comes to a limit just if reading its JSON does. -/
theorem Manifest.parse_eq_limit_iff {name : String} {content : Content} {e : Json.LimitError} :
    parse name content = .error (.limit e) ↔ content.readJson = .error (.inr e) := by
  rw [parse]
  constructor
  · intro h
    split at h
    · rename_i hjson
      cases h
      exact hjson
    · cases h
    · split at h
      · cases h
      · cases h
  · intro h
    rw [h]

section

variable {a : Analyzer} {c : String}

/-- An analysis with the default rules fails of nothing else. -/
theorem Analyzer.takes_failed_iff (hrules : a.rules = defaultRules) {f : Failure} :
    a.Takes c (.failed f) ↔ c ≠ ModuleName.baseComponent ∧ a.pool.FailsBefore c f := by
  constructor
  · intro h
    cases h with
    | lookupFailed hc hfind hf => exact ⟨hc, .lookup hfind hf⟩
    | readingFailed hc hfind hread => exact ⟨hc, .reading hfind hread⟩
    | limitExceeded hc hreads hparse =>
      exact ⟨hc, .decoding hreads (Manifest.parse_eq_limit_iff.mp hparse)⟩
    | @ruleFailed m before after rule _ _ _ hsplit hbefore hrule =>
      -- no default rule fails on any manifest
      have hfailed : deriveAll a.rules m = .error f :=
        deriveAll_eq_error_iff.mpr ⟨before, rule, after, hsplit, hbefore, hrule⟩
      rw [hrules, deriveAll_defaultRules] at hfailed
      cases hfailed
  · rintro ⟨hc, h⟩
    cases h with
    | lookup hfind hf => exact .lookupFailed hc hfind hf
    | reading hfind hread => exact .readingFailed hc hfind hread
    | decoding hreads hjson =>
      exact .limitExceeded hc hreads (Manifest.parse_eq_limit_iff.mpr hjson)

/-- No default rule reports a failed analysis. -/
theorem RuleWarning.code_ne_analysisFailed {m : Manifest} {w : Diagnostic}
    (h : RuleWarning m w) : w.code ≠ .analysisFailed := by
  cases h <;> simp [warning]

theorem Analyzer.code_ne_analysisFailed_of_derived (hrules : a.rules = defaultRules)
    {rs : List Derivation} (h : a.Takes c (.derived rs)) {d : DependencySet} {r : Diagnostic}
    (hr : r ∈ ((Course.derived rs).outcome c d).reports) : r.code ≠ .analysisFailed := by
  cases h with
  | derived _ _ hall =>
    rw [Course.outcome, Outcome.foldl_addDerivation, List.nil_append] at hr
    obtain ⟨x, hx, hr⟩ := List.mem_flatMap.mp hr
    obtain ⟨rule, hrule, hok⟩ := exists_rule_of_mem hall hx
    rw [hrules] at hrule
    rcases Derivation.mem_reports.mp hr with ⟨y, -, rfl⟩ | ⟨w, hw, rfl⟩
    · simp [addedReport]
    · exact (ruleWarning_of_mem_diagnostics (mem_derivations_of_defaultRule hrule hok)
        hw).code_ne_analysisFailed

/-- A failed analysis is reported just by the course that failed. -/
theorem Analyzer.analysisFailed_iff (hrules : a.rules = defaultRules) (d : DependencySet) :
    (∃ r ∈ (a.analyze c d).reports, r.code = .analysisFailed) ↔ ∃ f, a.Takes c (.failed f) := by
  rw [a.analyze_eq_outcome]
  constructor
  · rintro ⟨r, hr, hcode⟩
    have htakes := a.takes_course c
    cases hk : a.course c with
    | exempt =>
      rw [hk] at hr
      cases hr
    | missing =>
      rw [hk] at hr
      rw [List.mem_singleton.mp hr] at hcode
      cases hcode
    | malformed fault =>
      rw [hk] at hr
      rw [List.mem_singleton.mp hr] at hcode
      cases hcode
    | failed f => exact ⟨f, hk ▸ htakes⟩
    | derived rs =>
      rw [hk] at hr htakes
      exact absurd hcode (code_ne_analysisFailed_of_derived hrules htakes hr)
  · rintro ⟨f, hf⟩
    rw [course_eq_of_takes hf]
    exact ⟨failedReport c f, List.mem_singleton.mpr rfl, rfl⟩

end

/-- What can be evaluated has not failed before. -/
theorem Pool.Holds.not_failsBefore {pool : Pool} {c : String} {M : Manifest}
    (h : pool.Holds c M) (f : Failure) : ¬ pool.FailsBefore c f := by
  obtain ⟨bytes, hreads, hparse⟩ := h
  intro hf
  cases hf with
  | lookup hfind _ =>
    obtain ⟨resource, hfind', -⟩ := hreads
    rw [hfind] at hfind'
    cases hfind'
  | reading hfind hread =>
    obtain ⟨resource, hfind', hread'⟩ := hreads
    rw [hfind] at hfind'
    cases hfind'
    rw [hread] at hread'
    cases hread'
  | decoding hreads' hjson =>
    rw [hreads.unique hreads', Manifest.parse_eq_limit_iff.mpr hjson] at hparse
    cases hparse

/-- **No rule fails.** The strict rules, which fail when they work on nothing,
are the default rules, and give an outcome for every manifest; a routing
target that is to be shown has a dotted name after it has been merged. What
they derive can be added to any dependencies. So an analysis with them
reports that it failed just when the descriptor could not be looked up, could
not be read, or has JSON beyond the limits of the reader, and never when it
is a manifest, whatever that says. -/
theorem strict_rules_never_fail :
    Strict.rules = defaultRules ∧
      (∀ (defaults : Option RoutingDefaults) (t : RoutingTarget),
        (nonEmpty? t.viewName).isSome = true →
          ∃ name, (TargetView.merge defaults t).qualifiedName? = some name) ∧
      (∀ M : Manifest, (∀ rule ∈ Strict.rules, ∃ x, rule M = .ok x) ∧
        ∀ (component : Option String) (d : DependencySet), ∃ rs,
          deriveAll Strict.rules M = .ok rs ∧
            M.derive Strict.rules component d = .ok (addDerived component d rs)) ∧
      ∀ (pool : Pool) (c : String) (d : DependencySet),
        let reports := (({ pool := pool, rules := Strict.rules } : Analyzer).analyze c d).reports
        ((∃ r ∈ reports, r.code = .analysisFailed) ↔
          c ≠ ModuleName.baseComponent ∧ ∃ f, pool.FailsBefore c f) ∧
        ((∃ M, pool.Holds c M) → ∀ r ∈ reports, r.code ≠ .analysisFailed) := by
  refine ⟨Strict.rules_eq, fun defaults t => TargetView.exists_qualifiedName? defaults,
    fun M => ⟨?_, ?_⟩, fun pool c d => ?_⟩
  · intro rule hrule
    rw [Strict.rules_eq] at hrule
    simp only [defaultRules, List.mem_cons, List.not_mem_nil, or_false] at hrule
    rcases hrule with rfl | rfl | rfl | rfl | rfl | rfl <;> exact ⟨_, rfl⟩
  · intro component d
    rw [Strict.rules_eq]
    exact ⟨M.derivations, rfl, rfl⟩
  · intro reports
    have hiff : (∃ r ∈ reports, r.code = .analysisFailed) ↔
        c ≠ ModuleName.baseComponent ∧ ∃ f, pool.FailsBefore c f := by
      rw [Analyzer.analysisFailed_iff Strict.rules_eq d]
      simp only [Analyzer.takes_failed_iff (a := { pool := pool, rules := Strict.rules })
        Strict.rules_eq, exists_and_left]
    refine ⟨hiff, ?_⟩
    rintro ⟨M, hM⟩ r hr hcode
    obtain ⟨-, f, hf⟩ := hiff.mp ⟨r, hr, hcode⟩
    exact hM.not_failsBefore f hf

end ManifestDeps
