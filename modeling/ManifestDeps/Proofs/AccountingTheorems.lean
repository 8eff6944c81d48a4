/-
ManifestDeps.Proofs.AccountingTheorems — every declared entry is accounted
for.

What a rule derives and what it warns of are two lists. `Accounts` deals
both out to the entries of a table, in order: each entry takes the next
dependency, the next warning, or neither, and nothing is left over. What an
entry may take is said by one relation for each kind of entry
(`DeclarationGives`, `UsageGives`, `ModelGives`, `TargetGives`), in terms of
the entry and not of the rule. `accounts_ofFindings` is the one induction:
a rule that finds at most one thing for each entry accounts for all of them
when it does so for one.

`rules_account_for_entries` puts the rules together for a manifest that is
read from a file. There the names of a table are distinct, so that an entry
is dealt with once, and a model is looked up as the entry that it is.
-/
import ManifestDeps.Proofs.MemberOrderTheorems

namespace ManifestDeps

open TargetView (nonEmpty?)

/-! ## §1 Dealing out findings -/

/-- Dependencies and warnings are dealt out to entries, in order. Each entry
takes the next dependency, the next warning, or neither, as `gives` says of
it, and nothing is left over. -/
inductive Accounts {α : Type} (gives : α → Option Finding → Prop) :
    List α → List DerivedDependency → List Diagnostic → Prop where
  | nil : Accounts gives [] [] []
  | dependency {e : α} {es : List α} {d : DerivedDependency} {ds : List DerivedDependency}
      {ws : List Diagnostic} : gives e (some (.dependency d)) → Accounts gives es ds ws →
      Accounts gives (e :: es) (d :: ds) ws
  | warning {e : α} {es : List α} {ds : List DerivedDependency} {w : Diagnostic}
      {ws : List Diagnostic} : gives e (some (.warning w)) → Accounts gives es ds ws →
      Accounts gives (e :: es) ds (w :: ws)
  | silent {e : α} {es : List α} {ds : List DerivedDependency} {ws : List Diagnostic} :
      gives e none → Accounts gives es ds ws → Accounts gives (e :: es) ds ws

section Accounts

variable {α : Type} {gives : α → Option Finding → Prop} {es : List α}
  {ds : List DerivedDependency} {ws : List Diagnostic}

/-- **A rule that finds at most one thing for each entry accounts for all
of them.** -/
theorem accounts_ofFindings {f : α → List Finding}
    (h : ∀ e ∈ es, ∃ o : Option Finding, f e = o.toList ∧ gives e o) (rule : String) :
    Accounts gives es (Derivation.ofFindings rule (es.flatMap f)).dependencies
      (Derivation.ofFindings rule (es.flatMap f)).diagnostics := by
  induction es with
  | nil => exact .nil
  | cons e es ih =>
    have hrest := ih fun x hx => h x (List.mem_cons_of_mem e hx)
    obtain ⟨o, ho, hgives⟩ := h e List.mem_cons_self
    rw [List.flatMap_cons, Derivation.dependencies_ofFindings_append,
      Derivation.diagnostics_ofFindings_append, ho]
    cases o with
    | none => exact .silent hgives hrest
    | some finding =>
      cases finding with
      | dependency d => exact .dependency hgives hrest
      | warning w => exact .warning hgives hrest

/-- A rule that finds one thing for each entry. -/
theorem accounts_ofFindings_map {f : α → Finding} (h : ∀ e ∈ es, gives e (some (f e)))
    (rule : String) :
    Accounts gives es (Derivation.ofFindings rule (es.map f)).dependencies
      (Derivation.ofFindings rule (es.map f)).diagnostics := by
  rw [List.map_eq_flatMap]
  exact accounts_ofFindings (fun e he => ⟨some (f e), rfl, h e he⟩) rule

/-- There are as many dependencies and warnings as entries that give
something. -/
theorem Accounts.length_eq (h : Accounts gives es ds ws) {p : α → Bool}
    (hp : ∀ e o, gives e o → o.isSome = p e) : ds.length + ws.length = es.countP p := by
  induction h with
  | nil => rfl
  | dependency hgives _ ih =>
    rw [List.countP_cons_of_pos (hp _ _ hgives).symm, ← ih, List.length_cons, Nat.add_right_comm]
  | warning hgives _ ih =>
    rw [List.countP_cons_of_pos (hp _ _ hgives).symm, ← ih, List.length_cons, Nat.add_assoc]
  | silent hgives _ ih =>
    rw [List.countP_cons_of_neg (by simp [← hp _ _ hgives]), ih]

/-- Where each entry gives something, there are as many as entries. -/
theorem Accounts.length_eq_length (h : Accounts gives es ds ws)
    (hsome : ∀ e o, gives e o → o.isSome = true) : ds.length + ws.length = es.length := by
  rw [h.length_eq hsome, List.countP_true]

/-- Where no entry gives a warning, there is none. -/
theorem Accounts.warnings_eq_nil (h : Accounts gives es ds ws)
    (hw : ∀ e w, ¬ gives e (some (.warning w))) : ws = [] := by
  induction h with
  | nil => rfl
  | dependency _ _ ih => exact ih
  | warning hgives _ _ => exact absurd hgives (hw _ _)
  | silent _ _ ih => exact ih

end Accounts

/-! ## §2 What an entry gives -/

/-- A declared library or component is a dependency, conditional when it is
lazy. -/
inductive DeclarationGives (suffix : String) :
    String × Option DependencyOptions → Option Finding → Prop where
  | dependency (name : String) (o : Option DependencyOptions) :
      DeclarationGives suffix (name, o) (some (.dependency
        { module := ModuleName.ofDotted name (some suffix)
          conditional := o.any DependencyOptions.lazy }))

/-- A component usage is a dependency on the component that it names, or a
warning that it names none. -/
inductive UsageGives : String × Option ComponentUsage → Option Finding → Prop where
  | dependency {key name : String} {u : ComponentUsage} : u.name = some name → name ≠ "" →
      UsageGives (key, some u) (some (.dependency
        { module := ModuleName.ofDotted name (some componentSuffix)
          conditional := u.lazy != some false }))
  | nameMissing {key : String} {u? : Option ComponentUsage} :
      (∀ u name, u? = some u → u.name = some name → name = "") →
      UsageGives (key, u?) (some (.warning
        (warning componentUsageRuleName .componentUsageNameMissing [("usage", .str key)])))

/-- A model of a manifest is a required dependency on the class that it is
configured to have or that its data source implies, or, with no class
configured, a warning that names the model. -/
inductive ModelGives (M : Manifest) : String × Option ModelConfig → Option Finding → Prop where
  | configured {key type : String} {c : ModelConfig} : c.type = some type → type ≠ "" →
      ModelGives M (key, some c) (some (.dependency
        { module := ModuleName.ofDotted type none, conditional := false }))
  | implied {key source type : String} {c : ModelConfig} {s : DataSource} :
      nonEmpty? c.type = none → c.dataSource = some source → source ≠ "" →
      M.dataSource? source = some s → s.modelClass source key = .ok type → type ≠ "" →
      ModelGives M (key, some c) (some (.dependency
        { module := ModuleName.ofDotted type none, conditional := false }))
  | warned {key : String} {c? : Option ModelConfig} {w : Diagnostic} :
      (∀ c type, c? = some c → c.type = some type → type = "") → RuleWarning M w →
      w.context.lookup "model" = some (.str key) →
      ModelGives M (key, c?) (some (.warning w))

/-- The entry of a target has a view name of its own. -/
def showsView (entry : String × Option RoutingTarget) : Bool :=
  entry.2.any fun t => (nonEmpty? t.viewName).isSome

/-- A target with a view name of its own is a required dependency on the
view, or a warning that the view has no type, not even an inherited one.
Any other target is nothing. -/
inductive TargetGives (defaults : Option RoutingDefaults) :
    String × Option RoutingTarget → Option Finding → Prop where
  | view {key name type : String} {t : RoutingTarget} : showsView (key, some t) = true →
      (TargetView.merge defaults t).qualifiedName? = some name →
      (TargetView.merge defaults t).viewType = some type → type ≠ "" →
      TargetGives defaults (key, some t) (some (.dependency
        { module := ModuleName.ofDotted name (some (ModuleName.viewSuffix type))
          conditional := false }))
  | typeMissing {key : String} {t : RoutingTarget} : showsView (key, some t) = true →
      nonEmpty? (TargetView.merge defaults t).viewType = none →
      TargetGives defaults (key, some t) (some (.warning
        (warning routingRuleName .routingTargetViewTypeMissing [("target", .str key)])))
  | noView {entry : String × Option RoutingTarget} : showsView entry = false →
      TargetGives defaults entry none

/-! ## §3 The rules find what the entries give -/

theorem TargetView.nonEmpty?_eq_none_iff {t : Option String} :
    nonEmpty? t = none ↔ ∀ s, t = some s → s = "" := by
  rw [Option.eq_none_iff_forall_ne_some]
  constructor
  · intro h s hs
    by_contra hne
    exact h s (nonEmpty?_eq_some_iff.mpr ⟨hs, hne⟩)
  · intro h s hs
    obtain ⟨ht, hne⟩ := nonEmpty?_eq_some_iff.mp hs
    exact hne (h s ht)

/-- **Component usages.** -/
theorem usageGives_usageFinding (entry : String × Option ComponentUsage) :
    UsageGives entry (some (usageFinding entry)) := by
  obtain ⟨key, u?⟩ := entry
  unfold usageFinding
  split
  · rename_i hnone
    refine .nameMissing fun u name hu hname => ?_
    subst hu
    have hempty : nonEmpty? u.name = none := by simpa using hnone
    exact TargetView.nonEmpty?_eq_none_iff.mp hempty name hname
  · rename_i name lazy hsome
    obtain ⟨u, hu, hpair⟩ := Option.bind_eq_some_iff.mp hsome
    obtain ⟨s, hs, hpair⟩ := Option.map_eq_some_iff.mp hpair
    obtain ⟨hname, hne⟩ := TargetView.nonEmpty?_eq_some_iff.mp hs
    cases hu
    cases hpair
    exact .dependency hname hne

/-- The class that a data source implies has a name, and a warning about
there being none names the model. -/
theorem DataSource.modelClass_spec (source : DataSource) (name model : String) :
    (∃ type, source.modelClass name model = .ok type ∧ type ≠ "") ∨
      ∃ w, source.modelClass name model = .error w ∧
        w.context.lookup "model" = some (.str model) := by
  rw [DataSource.modelClass_eq]
  split
  · split
    · exact .inl ⟨_, rfl, by decide⟩
    · split
      · exact .inl ⟨_, rfl, by decide⟩
      · exact .inr ⟨_, rfl, rfl⟩
  · split
    · exact .inl ⟨_, rfl, by decide⟩
    · split
      · exact .inl ⟨_, rfl, by decide⟩
      · exact .inr ⟨_, rfl, rfl⟩

/-- **Models**, with the configuration that is found under their name. -/
theorem modelGives_modelFinding {M : Manifest} {key : String} {c? : Option ModelConfig}
    (hkey : M.models.lookup key = some c?) :
    ModelGives M (key, c?) (some (M.modelFinding key)) := by
  have hconfig : ((M.ui.models.getD []).lookup key).join = c? := congrArg Option.join hkey
  unfold Manifest.modelFinding
  rw [Manifest.modelClass_eq, hconfig]
  cases hown : c?.bind fun c => nonEmpty? c.type with
  | some type =>
    obtain ⟨c, rfl, htype⟩ := Option.bind_eq_some_iff.mp hown
    obtain ⟨htype, hne⟩ := TargetView.nonEmpty?_eq_some_iff.mp htype
    exact .configured htype hne
  | none =>
    have hnone : ∀ c, c? = some c → nonEmpty? c.type = none := Option.bind_eq_none_iff.mp hown
    have hempty : ∀ c type, c? = some c → c.type = some type → type = "" :=
      fun c type hc => TargetView.nonEmpty?_eq_none_iff.mp (hnone c hc) type
    cases hsource : c?.bind fun c => nonEmpty? c.dataSource with
    | none => exact .warned hempty (.modelTypeUndefined key) rfl
    | some source =>
      dsimp only
      cases hs : M.dataSource? source with
      | none => exact .warned hempty (.dataSourceNotFound source key) rfl
      | some s =>
        dsimp only
        rcases s.modelClass_spec source key with ⟨type, htype, hne⟩ | ⟨w, hw, hmodel⟩
        · obtain ⟨c, rfl, hsource⟩ := Option.bind_eq_some_iff.mp hsource
          obtain ⟨hsource, hsne⟩ := TargetView.nonEmpty?_eq_some_iff.mp hsource
          rw [htype]
          exact .implied (hnone c rfl) hsource hsne hs htype hne
        · rw [hw]
          exact .warned hempty (DataSource.ruleWarning_of_modelClass hs hw) hmodel

/-- A view with a name of its own has a dotted name. -/
theorem TargetView.exists_qualifiedName? (defaults : Option RoutingDefaults) {t : RoutingTarget}
    (h : (nonEmpty? t.viewName).isSome = true) :
    ∃ name, (merge defaults t).qualifiedName? = some name := by
  obtain ⟨own, hown⟩ := Option.isSome_iff_exists.mp h
  have hname : (merge defaults t).viewName = t.viewName := by
    simp [merge, (nonEmpty?_eq_some_iff.mp hown).1]
  exact ⟨_, by rw [qualifiedName?, hname, hown, Option.map_some]⟩

/-- **Targets.** -/
theorem exists_targetGives (defaults : Option RoutingDefaults)
    (entry : String × Option RoutingTarget) :
    ∃ o : Option Finding, targetFindings defaults entry = o.toList ∧
      TargetGives defaults entry o := by
  obtain ⟨key, t?⟩ := entry
  cases t? with
  | none => exact ⟨none, rfl, .noView rfl⟩
  | some t =>
    by_cases hown : (nonEmpty? t.viewName).isSome = true
    · obtain ⟨name, hname⟩ := TargetView.exists_qualifiedName? defaults hown
      cases htype : nonEmpty? (TargetView.merge defaults t).viewType with
      | none =>
        refine ⟨_, ?_, .typeMissing hown htype⟩
        simp [targetFindings, Option.filter, hown, htype]
      | some type =>
        obtain ⟨ht, hne⟩ := TargetView.nonEmpty?_eq_some_iff.mp htype
        refine ⟨_, ?_, .view hown hname ht hne⟩
        simp [targetFindings, Option.filter, hown, htype, hname]
    · refine ⟨none, ?_, .noView (Bool.eq_false_iff.mpr hown)⟩
      simp [targetFindings, Option.filter, hown]

/-! ## §4 Routing -/

namespace Manifest

/-- The routing targets. -/
def targets (M : Manifest) : Table (Option RoutingTarget) :=
  (M.ui.routing.bind Routing.targets).getD []

/-- The settings that the targets share. -/
def routingDefaults (M : Manifest) : Option RoutingDefaults :=
  M.ui.routing.bind Routing.config

/-- The modules behind routing itself: the router when there are routes,
else the classes behind targets and views when there are targets. -/
inductive RoutingClasses (M : Manifest) : List DerivedDependency → Prop where
  | router {r : Routing} : M.ui.routing = some r → r.routes.isSome = true →
      RoutingClasses M [⟨ModuleName.ofDotted
        ((r.config.bind fun c => nonEmpty? c.routerClass).getD defaultRouterClass) none, false⟩]
  | targetsAndViews {r : Routing} : M.ui.routing = some r → r.routes.isSome = false →
      r.targets.isSome = true →
      RoutingClasses M
        [⟨((r.config.bind fun c => nonEmpty? c.targetsClass).map ModuleName.ofClass).getD
          defaultTargetsModule, false⟩, ⟨viewsModule, false⟩]
  | nothing : (∀ r, M.ui.routing = some r → r.routes.isSome = false ∧ r.targets.isSome = false) →
      RoutingClasses M []

theorem exists_routingClasses {M : Manifest} {r : Routing} (hr : M.ui.routing = some r) :
    ∃ classes, M.RoutingClasses classes ∧
      r.classFindings = classes.map Finding.dependency := by
  unfold Routing.classFindings
  split
  · rename_i hroutes
    exact ⟨_, .router hr hroutes, rfl⟩
  · rename_i hroutes
    have hroutes := Bool.eq_false_iff.mpr hroutes
    split
    · rename_i htargets
      refine ⟨_, .targetsAndViews hr hroutes htargets, ?_⟩
      cases r.config.bind fun c => nonEmpty? c.targetsClass <;> rfl
    · rename_i htargets
      refine ⟨[], .nothing fun s hs => ?_, rfl⟩
      cases hr.symm.trans hs
      exact ⟨hroutes, Bool.eq_false_iff.mpr htargets⟩

end Manifest

theorem Derivation.dependencies_ofFindings_behind (rule : String) (ds : List DerivedDependency)
    (fs : List Finding) :
    (ofFindings rule (ds.map .dependency ++ fs)).dependencies =
      ds ++ (ofFindings rule fs).dependencies := by
  rw [dependencies_ofFindings_append]
  simp [ofFindings, List.filterMap_map]

theorem Derivation.diagnostics_ofFindings_behind (rule : String) (ds : List DerivedDependency)
    (fs : List Finding) :
    (ofFindings rule (ds.map .dependency ++ fs)).diagnostics =
      (ofFindings rule fs).diagnostics := by
  rw [diagnostics_ofFindings_append]
  simp [ofFindings, List.filterMap_map]

/-- **Routing**: behind the modules of routing itself the views of the
targets. -/
theorem routingRule_accounts (M : Manifest) :
    ∃ classes views, M.RoutingClasses classes ∧
      (routingRule M).dependencies = classes ++ views ∧
      Accounts (TargetGives M.routingDefaults) M.targets views (routingRule M).diagnostics := by
  unfold routingRule Manifest.targets Manifest.routingDefaults
  cases hr : M.ui.routing with
  | none =>
    refine ⟨[], [], .nothing fun r h => ?_, rfl, .nil⟩
    cases hr.symm.trans h
  | some r =>
    obtain ⟨classes, hclasses, hfindings⟩ := Manifest.exists_routingClasses hr
    dsimp only
    rw [hfindings, Derivation.dependencies_ofFindings_behind,
      Derivation.diagnostics_ofFindings_behind]
    exact ⟨classes, _, hclasses, rfl,
      accounts_ofFindings (fun e _ => exists_targetGives r.config e) routingRuleName⟩

/-! ## §5 All entries -/

/-- What is read from a file has distinct names in all its tables. -/
theorem Manifest.alike_self_of_parse {name : String} {content : Content} {M : Manifest}
    (h : parse name content = .ok M) : M.Alike M := by
  cases hv : content.readJson with
  | error e =>
    rw [parse, hv] at h
    cases e <;> cases h
  | ok v =>
    rcases alike_parse ⟨v, v, hv, hv, .refl v⟩ name with ⟨e, -, he, -⟩ | ⟨A, B, hA, hB, hAB⟩
    · cases he.symm.trans h
    · cases hA.symm.trans h
      cases hB.symm.trans h
      exact hAB

/-- A table is accounted for, and no name occurs twice in it. -/
structure Accounted {α : Type} (gives : String × α → Option Finding → Prop) (t : Table α)
    (ds : List DerivedDependency) (ws : List Diagnostic) : Prop where
  distinct : Table.DistinctNames t
  accounts : Accounts gives t ds ws

/-- Declared libraries or components are accounted for by dependencies
alone, one for each. -/
theorem accounted_declarations {t : Table (Option DependencyOptions)}
    (hd : Table.DistinctNames t) (rule suffix : String) :
    let x := Derivation.ofFindings rule (t.map (declarationFinding suffix))
    Accounted (DeclarationGives suffix) t x.dependencies x.diagnostics ∧
      x.diagnostics = [] ∧ x.dependencies.length = t.length := by
  intro x
  have haccounts : Accounts (DeclarationGives suffix) t x.dependencies x.diagnostics :=
    accounts_ofFindings_map (fun e _ => .dependency e.1 e.2) rule
  have hnone : x.diagnostics = [] := haccounts.warnings_eq_nil fun e w h => by cases h
  have hlength := haccounts.length_eq_length fun e o h => by cases h; rfl
  rw [hnone, List.length_nil, Nat.add_zero] at hlength
  exact ⟨⟨hd, haccounts⟩, hnone, hlength⟩

/-- **Every declared entry is accounted for.** Of a manifest that is read
from a file, in the order of the tables and with nothing left over: each
library and each component is one dependency; each component usage is one
dependency, or one warning that it names no component; each model is one
required dependency, or one warning that names it; each target with a view
name of its own is one required dependency, or one warning that its view has
no type, and any other target is nothing. Before the views come only the
modules of routing itself. -/
theorem rules_account_for_entries {name : String} {content : Content} {M : Manifest}
    (h : Manifest.parse name content = .ok M) :
    (Accounted (DeclarationGives librarySuffix) M.libraries (libraryRule M).dependencies
        (libraryRule M).diagnostics ∧
      (libraryRule M).diagnostics = [] ∧
      (libraryRule M).dependencies.length = M.libraries.length) ∧
    (Accounted (DeclarationGives componentSuffix) M.components (componentRule M).dependencies
        (componentRule M).diagnostics ∧
      (componentRule M).diagnostics = [] ∧
      (componentRule M).dependencies.length = M.components.length) ∧
    (Accounted UsageGives M.usages (componentUsageRule M).dependencies
        (componentUsageRule M).diagnostics ∧
      (componentUsageRule M).dependencies.length + (componentUsageRule M).diagnostics.length =
        M.usages.length) ∧
    (Accounted (ModelGives M) M.models (modelRule M).dependencies (modelRule M).diagnostics ∧
      (modelRule M).dependencies.length + (modelRule M).diagnostics.length =
        M.models.length) ∧
    ∃ classes views, M.RoutingClasses classes ∧
      (routingRule M).dependencies = classes ++ views ∧
      Accounted (TargetGives M.routingDefaults) M.targets views (routingRule M).diagnostics ∧
      views.length + (routingRule M).diagnostics.length = M.targets.countP showsView := by
  have hself := Manifest.alike_self_of_parse h
  have hdeclared := hself.ui.dependencies
  have hlibraries : Table.DistinctNames M.libraries :=
    (tableAlike_getD (optionRel_bind hdeclared fun _ _ hd => hd.libs)).distinct
  have hcomponents : Table.DistinctNames M.components :=
    (tableAlike_getD (optionRel_bind hdeclared fun _ _ hd => hd.components)).distinct
  have husages : Table.DistinctNames M.usages := (tableAlike_getD hself.ui.componentUsages).distinct
  have hmodels : Table.DistinctNames M.models := hself.models.distinct
  have htargets : Table.DistinctNames M.targets :=
    (tableAlike_getD (optionRel_bind hself.ui.routing fun _ _ hr => hr.targets)).distinct
  have husage : Accounts UsageGives M.usages (componentUsageRule M).dependencies
      (componentUsageRule M).diagnostics :=
    accounts_ofFindings_map (fun e _ => usageGives_usageFinding e) componentUsageRuleName
  have hmodel : Accounts (ModelGives M) M.models (modelRule M).dependencies
      (modelRule M).diagnostics := by
    rw [modelRule_eq]
    exact accounts_ofFindings_map
      (fun e he => modelGives_modelFinding ((Table.lookup_eq_some_iff_mem hmodels).mpr he))
      modelRuleName
  obtain ⟨classes, views, hclasses, hviews, htarget⟩ := routingRule_accounts M
  refine ⟨accounted_declarations hlibraries "library" librarySuffix,
    accounted_declarations hcomponents "component" componentSuffix,
    ⟨⟨husages, husage⟩, husage.length_eq_length fun e o h => ?_⟩,
    ⟨⟨hmodels, hmodel⟩, hmodel.length_eq_length fun e o h => ?_⟩,
    classes, views, hclasses, hviews, ⟨htargets, htarget⟩, htarget.length_eq fun e o h => ?_⟩
  · cases h <;> rfl
  · cases h <;> rfl
  · cases h with
    | view hown _ _ _ => exact hown.symm
    | typeMissing hown _ => exact hown.symm
    | noView hown => exact hown.symm

/-- A usage that names no component, and two models of which one has no
class. -/
theorem rules_account_for_usage_and_two_models :
    let usages := "\"componentUsages\":\x7b\"u\":null\x7d"
    let models := "\"models\":\x7b\"m\":null,\"n\":\x7b\"type\":\"T\"\x7d\x7d"
    let text := "\x7b\"sap.ui5\":\x7b" ++ usages ++ "," ++ models ++ "\x7d\x7d"
    ∃ M, Manifest.parse "manifest.json" (.text text) = .ok M ∧
      (componentUsageRule M).dependencies.length + (componentUsageRule M).diagnostics.length = 1 ∧
      (modelRule M).dependencies.length + (modelRule M).diagnostics.length = 2 := by
  intro usages models text
  have hlengths : (Manifest.parse "manifest.json" (.text text)).map
      (fun M => (M.usages.length, M.models.length)) = .ok (1, 2) := by decide +kernel
  cases hM : Manifest.parse "manifest.json" (.text text) with
  | error e =>
    rw [hM] at hlengths
    cases hlengths
  | ok M =>
    rw [hM] at hlengths
    obtain ⟨husages, hmodels⟩ := Prod.mk.inj (Except.ok.inj hlengths)
    obtain ⟨-, -, ⟨-, husage⟩, ⟨-, hmodel⟩, -⟩ := rules_account_for_entries hM
    exact ⟨M, rfl, husage.trans husages, hmodel.trans hmodels⟩

end ManifestDeps
