/-
ManifestDeps.Proofs.MemberOrderTheorems — the order of object members does
not matter to an analysis.

A logical relation goes along the way from the JSON value to the sorted
dependencies. Reordered values hold manifests that are `Alike`: a record
for each record of the schema, with equal texts, and tables that are equal
up to their order. Every `check` respects this relation
(`Manifest.alike_ofJson`). From manifests that are alike each rule finds
the same things in some order, where of a warning only the code is compared
(`Manifest.Alike.derivations`): the version of a data source is any JSON
value and is told in the warning as it is written. Adding does not depend
on the order either, once the dependencies are sorted.

The insertion order of the dependencies does change, and so does the order
of the reports; `analyze_reordered` claims neither.
-/
import ManifestDeps.Json.Printer
import ManifestDeps.Proofs.ReorderingTheorems
import ManifestDeps.Proofs.StrengthTheorems

namespace ManifestDeps

open Checked (Alike)
open Json (Value)
open TargetView (nonEmpty?)

/-! ## §1 Manifests that are alike -/

/-- Settings with versions that are reordered. -/
def DataSourceSettings.Alike (s t : DataSourceSettings) : Prop :=
  s.odataVersion.Reordered t.odataVersion

/-- Data sources with the same type and settings that are alike. -/
structure DataSource.Alike (s t : DataSource) : Prop where
  type : s.type = t.type
  settings : Option.Rel DataSourceSettings.Alike s.settings t.settings

/-- Application sections with the same data sources, in any order. -/
def AppSection.Alike (a b : AppSection) : Prop :=
  Option.Rel (Table.Alike DataSource.Alike) a.dataSources b.dataSources

/-- The same declarations, in any order. -/
structure Declarations.Alike (a b : Declarations) : Prop where
  libs : Option.Rel (Table.Alike Eq) a.libs b.libs
  components : Option.Rel (Table.Alike Eq) a.components b.components

/-- The same settings and the same targets, in any order; of routes only
whether there are any. -/
structure Routing.Alike (r s : Routing) : Prop where
  config : r.config = s.config
  routes : r.routes.isSome = s.routes.isSome
  targets : Option.Rel (Table.Alike Eq) r.targets s.targets

/-- UI sections that declare the same, in any order. Resources do not
count. -/
structure UiSection.Alike (a b : UiSection) : Prop where
  rootView : a.rootView = b.rootView
  dependencies : Option.Rel Declarations.Alike a.dependencies b.dependencies
  componentUsages : Option.Rel (Table.Alike Eq) a.componentUsages b.componentUsages
  models : Option.Rel (Table.Alike Eq) a.models b.models
  routing : Option.Rel Routing.Alike a.routing b.routing

/-- Manifests that declare the same, in any order. -/
structure Manifest.Alike (M N : Manifest) : Prop where
  app : M.app.Alike N.app
  ui : M.ui.Alike N.ui

/-! ## §2 Checking reordered values -/

open Check (Respects respects_any respects_record respects_switch respects_text)

theorem DataSourceSettings.respects_check : Respects Alike check := by
  refine respects_record fun ms ns h p q => (respects_any.field h _ p q).map ?_
  intro v w hvw
  cases hvw with
  | some hvw => exact hvw
  | none => exact .refl .null

theorem DataSource.respects_check : Respects Alike check := by
  refine respects_record fun ms ns h p q => ?_
  refine .seq ((respects_text.field_eq h _ p q).map ?_)
    (DataSourceSettings.respects_check.field h _ p q)
  exact fun _ _ htype _ _ hsettings => ⟨htype, hsettings⟩

theorem AppSection.respects_check : Respects Alike check := by
  refine respects_record fun ms ns h p q => ?_
  exact (DataSource.respects_check.table.field h _ p q).map fun _ _ hsources => hsources

theorem ViewOptions.respects_check : Respects Eq check := by
  refine respects_record fun ms ns h p q => ?_
  refine .seq ((respects_text.field_eq h _ p q).map ?_) (respects_text.field_eq h _ p q)
  exact fun _ _ hname _ _ htype => by rw [hname, htype]

/-- What is no text is read as options. -/
theorem RootView.check_of_ne_str {v : Value} (hv : ∀ s, v ≠ .str s) (place : Place) :
    check place v =
      match ViewOptions.check (place ++ [.key "RootView"]) v with
      | .ok o => .ok (.options o)
      | .faults fs => .faults (⟨.notText, place ++ [.key "str"]⟩ :: fs) := by
  cases v with
  | str s => exact absurd rfl (hv s)
  | _ => rfl

theorem RootView.respects_check : Respects Eq check := by
  intro v w hvw hd p q
  -- which of the two forms is tried depends on being a text, and no order changes that
  by_cases hv : ∃ s, v = .str s
  · obtain ⟨s, rfl⟩ := hv
    rw [hvw.eq_str_iff.mp rfl]
    exact .ok rfl
  · have hv : ∀ s, v ≠ .str s := not_exists.mp hv
    have hw : ∀ s, w ≠ .str s := fun s hs => hv s (hvw.eq_str_iff.mpr hs)
    have hoptions := ViewOptions.respects_check hvw hd (p ++ [.key "RootView"])
      (q ++ [.key "RootView"])
    rw [check_of_ne_str hv, check_of_ne_str hw]
    generalize ViewOptions.check _ v = x, ViewOptions.check _ w = y at hoptions
    cases hoptions with
    | ok ho => exact .ok (congrArg options ho)
    | faults fs gs => exact .faults _ _

theorem DependencyOptions.respects_check : Respects Eq check := by
  refine respects_record fun ms ns h p q => ?_
  have hlazy := h.find? (.single "lazy")
  generalize (FieldName.single "lazy").find? ms = a,
    (FieldName.single "lazy").find? ns = b at hlazy
  cases hlazy with
  | some hmn => exact .ok (by rw [Option.any_some, Option.any_some, hmn.2.1.isSet])
  | none => exact .ok rfl

theorem Declarations.respects_check : Respects Alike check := by
  refine respects_record fun ms ns h p q => ?_
  have htable := DependencyOptions.respects_check.nullable_eq.table
  refine .seq ((htable.field h _ p q).map ?_) (htable.field h _ p q)
  exact fun _ _ hlibs _ _ hcomponents => ⟨hlibs, hcomponents⟩

theorem ComponentUsage.respects_check : Respects Eq check := by
  refine respects_record fun ms ns h p q => ?_
  refine .seq ((respects_text.field_eq h _ p q).map ?_) (respects_switch.field_eq h _ p q)
  exact fun _ _ hname _ _ hlazy => by rw [hname, hlazy]

theorem ModelConfig.respects_check : Respects Eq check := by
  refine respects_record fun ms ns h p q => ?_
  refine .seq ((respects_text.field_eq h _ p q).map ?_) (respects_text.field_eq h _ p q)
  exact fun _ _ htype _ _ hsource => by rw [htype, hsource]

theorem RoutingDefaults.respects_check : Respects Eq check := by
  refine respects_record fun ms ns h p q => ?_
  have htext := fun f => respects_text.field_eq h f p q
  refine .seq (.seq (.seq (.seq ((htext _).map ?_) (htext _)) (htext _)) (htext _)) (htext _)
  exact fun _ _ hrouter _ _ htargets _ _ hpath _ _ hname _ _ htype => by
    rw [hrouter, htargets, hpath, hname, htype]

theorem RoutingTarget.respects_check : Respects Eq check := by
  refine respects_record fun ms ns h p q => ?_
  have htext := fun f => respects_text.field_eq h f p q
  refine .seq (.seq ((htext _).map ?_) (htext _)) (htext _)
  exact fun _ _ hpath _ _ hname _ _ htype => by rw [hpath, hname, htype]

theorem Routes.respects_check : Respects (fun _ _ => True) check := by
  intro v w hvw _ p q
  cases hvw with
  | refl => cases v <;> first | exact .ok trivial | exact .faults _ _
  | arr _ => exact .ok trivial
  | obj _ _ => exact .ok trivial

theorem Routing.respects_check : Respects Alike check := by
  refine respects_record fun ms ns h p q => ?_
  have htargets := RoutingTarget.respects_check.nullable_eq.table
  refine .seq (.seq ((RoutingDefaults.respects_check.field_eq h _ p q).map ?_)
    (Routes.respects_check.field h _ p q)) (htargets.field h _ p q)
  exact fun _ _ hconfig _ _ hroutes _ _ htargets =>
    ⟨hconfig, isSome_eq_of_optionRel hroutes, htargets⟩

theorem UiSection.respects_check : Respects Alike check := by
  refine respects_record fun ms ns h p q => ?_
  have husages := ComponentUsage.respects_check.nullable_eq.table
  have hmodels := ModelConfig.respects_check.nullable_eq.table
  have hresources := respects_any.table
  refine .seq (.seq (.seq (.seq (.seq ((RootView.respects_check.field_eq h _ p q).map ?_)
    (Declarations.respects_check.field h _ p q)) (husages.field h _ p q))
    (hmodels.field h _ p q)) (Routing.respects_check.field h _ p q)) (hresources.field h _ p q)
  exact fun _ _ hroot _ _ hdeps _ _ husages _ _ hmodels _ _ hrouting _ _ _ =>
    ⟨hroot, hdeps, husages, hmodels, hrouting⟩

/-- Whether a section is left out does not change with the order. -/
theorem isDroppedSection_eq {name : String} {v w : Value} (h : v.Reordered w) :
    isDroppedSection (name, v) = isDroppedSection (name, w) := by
  have hnull : (v == .null) = (w == .null) := by
    rw [Bool.eq_iff_iff, beq_iff_eq, beq_iff_eq, h.eq_null_iff]
  rw [isDroppedSection, isDroppedSection, hnull]

theorem SameMembers.filter {ms ns : List (String × Value)} (h : SameMembers ms ns)
    {keep : String × Value → Bool}
    (hkeep : ∀ name v w, v.Reordered w → keep (name, v) = keep (name, w)) :
    SameMembers (ms.filter keep) (ns.filter keep) where
  reordered := h.reordered.filter hkeep
  distinct := ⟨h.distinct.1.filter keep, fun m hm => h.distinct.2 m (List.mem_of_mem_filter hm)⟩

/-- **Reordered members make manifests that are alike**, or none. -/
theorem Manifest.alike_checkMembers {ms ns : List (String × Value)} (h : SameMembers ms ns) :
    Checked.Alike Alike (checkMembers ms) (checkMembers ns) := by
  -- a null section is left out on both sides, as its name is the same
  have hkept : SameMembers (ms.filter fun m => !isDroppedSection m)
      (ns.filter fun m => !isDroppedSection m) := by
    refine h.filter fun name v w hvw => ?_
    rw [isDroppedSection_eq hvw]
  refine .seq ((AppSection.respects_check.section .none hkept _).map ?_)
    (UiSection.respects_check.section ⟨rfl, .none, .none, .none, .none⟩ hkept _)
  exact fun _ _ happ _ _ hui => ⟨happ, hui⟩

theorem Manifest.ofJson_of_ne_obj {v : Value} (hv : ∀ ms, v ≠ .obj ms) :
    ofJson v = .error .notObject := by
  cases v with
  | obj ms => exact absurd rfl (hv ms)
  | _ => rfl

/-- Reordered values hold manifests that are alike, or both hold none. -/
theorem Manifest.alike_ofJson {v w : Value} (h : v.Reordered w) (hd : v.DistinctNames) :
    (∃ f g, ofJson v = .error f ∧ ofJson w = .error g) ∨
      ∃ M N, ofJson v = .ok M ∧ ofJson w = .ok N ∧ M.Alike N := by
  by_cases hv : ∃ ms, v = .obj ms
  · obtain ⟨ms, rfl⟩ := hv
    obtain ⟨ns, rfl, hmem⟩ := h.exists_obj
    have halike := alike_checkMembers ⟨hmem, hd.members⟩
    rw [ofJson, ofJson]
    generalize checkMembers ms = x, checkMembers ns = y at halike
    cases halike with
    | ok hMN => exact .inr ⟨_, _, rfl, rfl, hMN⟩
    | faults fs gs => exact .inl ⟨_, _, rfl, rfl⟩
  · have hw : ¬ ∃ ns, w = .obj ns := by
      rintro ⟨ns, rfl⟩
      exact hv h.obj_of_right
    exact .inl ⟨_, _, ofJson_of_ne_obj (not_exists.mp hv), ofJson_of_ne_obj (not_exists.mp hw)⟩

/-! ## §3 What the rules see -/

theorem tableAlike_getD {α : Type} {R : α → α → Prop} {a b : Option (Table α)}
    (h : Option.Rel (Table.Alike R) a b) : Table.Alike R (a.getD []) (b.getD []) := by
  cases h with
  | some h => exact h
  | none => exact ⟨⟨[], .nil, .nil⟩, List.nodup_nil⟩

namespace Manifest.Alike

variable {M N : Manifest}

theorem libraries_perm (h : M.Alike N) : M.libraries.Perm N.libraries :=
  (tableAlike_getD (optionRel_bind h.ui.dependencies fun _ _ hd => hd.libs)).reordered.perm

theorem components_perm (h : M.Alike N) : M.components.Perm N.components :=
  (tableAlike_getD (optionRel_bind h.ui.dependencies fun _ _ hd => hd.components)).reordered.perm

theorem usages_perm (h : M.Alike N) : M.usages.Perm N.usages :=
  (tableAlike_getD h.ui.componentUsages).reordered.perm

theorem models (h : M.Alike N) : Table.Alike Eq M.models N.models :=
  tableAlike_getD h.ui.models

theorem dataSource? (h : M.Alike N) (name : String) :
    Option.Rel DataSource.Alike (M.dataSource? name) (N.dataSource? name) :=
  have hsources := tableAlike_getD h.app
  hsources.reordered.lookup hsources.distinct name

end Manifest.Alike

/-! ## §4 The rules -/

/-- A finding up to the details of a warning. -/
def Finding.kind : Finding → DerivedDependency ⊕ DiagnosticCode
  | dependency d => .inl d
  | warning w => .inr w.code

/-- The same dependencies, and warnings with the same codes, in any
order. -/
def SameFindings (fs gs : List Finding) : Prop :=
  (fs.map Finding.kind).Perm (gs.map Finding.kind)

theorem SameFindings.refl (fs : List Finding) : SameFindings fs fs :=
  List.Perm.refl _

theorem SameFindings.append {fs fs' gs gs' : List Finding} (h : SameFindings fs gs)
    (h' : SameFindings fs' gs') : SameFindings (fs ++ fs') (gs ++ gs') := by
  rw [SameFindings, List.map_append, List.map_append]
  exact List.Perm.append h h'

/-- One finding for each entry, of the same kind in both. -/
theorem sameFindings_map {α : Type} {xs ys : List α} (h : xs.Perm ys) {f g : α → Finding}
    (hfg : ∀ x, (f x).kind = (g x).kind) : SameFindings (xs.map f) (ys.map g) := by
  have hkind : Finding.kind ∘ f = Finding.kind ∘ g := funext hfg
  rw [SameFindings, List.map_map, List.map_map, hkind]
  exact h.map _

/-- Any number of findings for each entry. -/
theorem sameFindings_flatMap {α : Type} {xs ys : List α} (h : xs.Perm ys)
    (f : α → List Finding) : SameFindings (xs.flatMap f) (ys.flatMap f) :=
  (h.flatMap_right f).map _

section Rules

variable {M N : Manifest}

/-- The version of a data source, null when it has none. -/
theorem DataSource.Alike.version {s t : DataSource} (h : s.Alike t) :
    s.version.Reordered t.version := by
  have hsettings := h.settings
  unfold DataSource.version
  generalize s.settings = a, t.settings = b at hsettings
  cases hsettings with
  | some hv => exact hv
  | none => exact .refl .null

/-- The model class on data sources that are alike, or the same kind of
warning. A version is only asked whether it is one of two texts and whether
it is there. -/
theorem DataSource.Alike.modelClass {s t : DataSource} (h : s.Alike t) (name model : String) :
    (s.modelClass name model).mapError Diagnostic.code =
      (t.modelClass name model).mapError Diagnostic.code := by
  rw [DataSource.modelClass_eq, DataSource.modelClass_eq]
  simp only [h.type, h.version.eq_str_iff, h.version.isSet]
  split_ifs <;> rfl

theorem Manifest.Alike.modelClass (h : M.Alike N) (model : String) :
    (M.modelClass model).mapError Diagnostic.code =
      (N.modelClass model).mapError Diagnostic.code := by
  have hconfig : M.models.lookup model = N.models.lookup model :=
    eq_of_optionRel (h.models.reordered.lookup h.models.distinct model)
  unfold Manifest.models at hconfig
  rw [Manifest.modelClass_eq, Manifest.modelClass_eq, hconfig]
  generalize ((N.ui.models.getD []).lookup model).join = config
  cases config.bind fun c => nonEmpty? c.type with
  | some type => rfl
  | none =>
    cases config.bind fun c => nonEmpty? c.dataSource with
    | none => rfl
    | some name =>
      have hsource := h.dataSource? name
      dsimp only
      generalize M.dataSource? name = a, N.dataSource? name = b at hsource
      cases hsource with
      | some hst => exact hst.modelClass name model
      | none => rfl

/-- What a model implies is fixed by its class, up to the details of a
warning. -/
theorem Manifest.kind_modelFinding (M : Manifest) (model : String) :
    (M.modelFinding model).kind =
      match (M.modelClass model).mapError Diagnostic.code with
      | .ok type => .inl { module := ModuleName.ofDotted type none }
      | .error code => .inr code := by
  unfold Manifest.modelFinding
  cases M.modelClass model <;> rfl

/-- **Root view.** -/
theorem sameFindings_rootView (h : M.Alike N) :
    SameFindings (rootViewFindings M) (rootViewFindings N) := by
  unfold rootViewFindings
  rw [h.ui.rootView]
  exact .refl _

/-- **Models.** -/
theorem sameFindings_models (h : M.Alike N) :
    SameFindings (M.models.map fun e => M.modelFinding e.1)
      (N.models.map fun e => N.modelFinding e.1) := by
  refine sameFindings_map h.models.reordered.perm fun e => ?_
  rw [M.kind_modelFinding, N.kind_modelFinding, h.modelClass]

/-- **Router, or targets and views.** -/
theorem Routing.Alike.classFindings {r s : Routing} (h : r.Alike s) :
    r.classFindings = s.classFindings := by
  unfold Routing.classFindings
  rw [h.routes, h.config, isSome_eq_of_optionRel h.targets]

/-- **Routing.** -/
theorem Routing.Alike.sameFindings {r s : Routing} (h : r.Alike s) :
    SameFindings (r.classFindings ++ (r.targets.getD []).flatMap (targetFindings r.config))
      (s.classFindings ++ (s.targets.getD []).flatMap (targetFindings s.config)) := by
  rw [h.classFindings, h.config]
  exact (SameFindings.refl _).append
    (sameFindings_flatMap (tableAlike_getD h.targets).reordered.perm _)

end Rules

/-! ## §5 All rules together -/

/-- The same dependencies and codes of warnings, in any order. -/
structure Derivation.Alike (x y : Derivation) : Prop where
  dependencies : x.dependencies.Perm y.dependencies
  codes : (x.diagnostics.map Diagnostic.code).Perm (y.diagnostics.map Diagnostic.code)

theorem Derivation.dependencies_ofFindings (rule : String) (fs : List Finding) :
    (ofFindings rule fs).dependencies = (fs.map Finding.kind).filterMap Sum.getLeft? := by
  rw [ofFindings, List.filterMap_map]
  refine List.filterMap_congr fun f _ => ?_
  cases f <;> rfl

theorem Derivation.codes_ofFindings (rule : String) (fs : List Finding) :
    (ofFindings rule fs).diagnostics.map Diagnostic.code =
      (fs.map Finding.kind).filterMap Sum.getRight? := by
  rw [ofFindings, List.filterMap_map, List.map_filterMap]
  refine List.filterMap_congr fun f _ => ?_
  cases f <;> rfl

theorem SameFindings.alike {fs gs : List Finding} (h : SameFindings fs gs) (rule : String) :
    (Derivation.ofFindings rule fs).Alike (.ofFindings rule gs) where
  dependencies := by
    rw [Derivation.dependencies_ofFindings, Derivation.dependencies_ofFindings]
    exact List.Perm.filterMap _ h
  codes := by
    rw [Derivation.codes_ofFindings, Derivation.codes_ofFindings]
    exact List.Perm.filterMap _ h

/-- **Manifests that are alike have derivations that are alike**, rule by
rule. -/
theorem Manifest.Alike.derivations {M N : Manifest} (h : M.Alike N) :
    List.Forall₂ Derivation.Alike M.derivations N.derivations := by
  have hlibraries : SameFindings (M.libraries.map (declarationFinding librarySuffix))
      (N.libraries.map (declarationFinding librarySuffix)) :=
    sameFindings_map h.libraries_perm fun _ => rfl
  have hcomponents : SameFindings (M.components.map (declarationFinding componentSuffix))
      (N.components.map (declarationFinding componentSuffix)) :=
    sameFindings_map h.components_perm fun _ => rfl
  have husages : SameFindings (M.usages.map usageFinding) (N.usages.map usageFinding) :=
    sameFindings_map h.usages_perm fun _ => rfl
  have hmodels : (modelRule M).Alike (modelRule N) := by
    rw [modelRule_eq, modelRule_eq]
    exact (sameFindings_models h).alike _
  refine .cons ((sameFindings_rootView h).alike _) (.cons (hlibraries.alike _)
    (.cons (hcomponents.alike _) (.cons (husages.alike _)
      (.cons hmodels (.cons ?_ .nil)))))
  refine SameFindings.alike ?_ routingRuleName
  have hrouting := h.ui.routing
  generalize M.ui.routing = a, N.ui.routing = b at hrouting
  cases hrouting with
  | some hr => exact hr.sameFindings
  | none => exact .refl []

theorem perm_flatMap_of_forall₂ {α β γ : Type} {f : α → List γ} {g : β → List γ}
    {xs : List α} {ys : List β} (h : List.Forall₂ (fun x y => (f x).Perm (g y)) xs ys) :
    (xs.flatMap f).Perm (ys.flatMap g) := by
  induction h with
  | nil => exact .nil
  | cons hxy _ ih =>
    rw [List.flatMap_cons, List.flatMap_cons]
    exact hxy.append ih

/-- What is added is the same, in any order. -/
theorem Manifest.Alike.additions_perm {M N : Manifest} (h : M.Alike N) :
    M.additions.Perm N.additions := by
  refine perm_flatMap_of_forall₂ (h.derivations.imp fun x y hxy => ?_)
  exact hxy.dependencies.map _

theorem Derivation.codes_reports (component : Option String) (x : Derivation) :
    (x.reports component).map Diagnostic.code =
      x.dependencies.map (fun _ => .dependencyAdded) ++ x.diagnostics.map Diagnostic.code := by
  rw [reports, List.map_append, List.map_map, List.map_map]
  cases component <;> rfl

/-- The codes that are reported are the same, in any order. -/
theorem Manifest.Alike.codes_perm {M N : Manifest} (h : M.Alike N) (component : Option String) :
    ((M.derivations.flatMap (Derivation.reports component)).map Diagnostic.code).Perm
      ((N.derivations.flatMap (Derivation.reports component)).map Diagnostic.code) := by
  rw [List.map_flatMap, List.map_flatMap]
  refine perm_flatMap_of_forall₂ (h.derivations.imp fun x y hxy => ?_)
  rw [Derivation.codes_reports, Derivation.codes_reports]
  exact (hxy.dependencies.map _).append hxy.codes

/-! ## §6 Analyses -/

/-- Both contents are JSON, and differ only in the order of object
members. -/
def Content.Reordered (x y : Content) : Prop :=
  ∃ v w, x.readJson = .ok v ∧ y.readJson = .ok w ∧ v.Reordered w

/-- Reordered contents are manifests that are alike, or both are none. -/
theorem Manifest.alike_parse {x y : Content} (h : x.Reordered y) (name : String) :
    (∃ e f, parse name x = .error (.invalid e) ∧ parse name y = .error (.invalid f)) ∨
      ∃ M N, parse name x = .ok M ∧ parse name y = .ok N ∧ M.Alike N := by
  obtain ⟨v, w, hv, hw, hvw⟩ := h
  unfold parse
  rw [hv, hw]
  dsimp only
  rcases alike_ofJson hvw (Content.readJson_distinctNames hv) with
    ⟨f, g, hf, hg⟩ | ⟨M, N, hM, hN, halike⟩
  · rw [hf, hg]
    exact .inl ⟨_, _, rfl, rfl⟩
  · rw [hM, hN]
    exact .inr ⟨M, N, rfl, rfl, halike⟩

/-- The codes of the reports. -/
def Outcome.codes (o : Outcome) : List DiagnosticCode :=
  o.reports.map Diagnostic.code

/-- **The order of members does not matter.** Two pools hold descriptors of
a component whose JSON values differ only in the order of object members,
at any depth. Analyzed with the default rules, from the same dependencies,
both descriptors are refused and nothing is added, or both are manifests
and the sorted dependencies come out the same, with the same codes reported
the same number of times. The base component is exempt from both. -/
theorem analyze_reordered {p q : Pool} {c : String} {bs cs : List UInt8}
    (hp : p.Reads c bs) (hq : q.Reads c cs) (h : (Content.bytes bs).Reordered (.bytes cs))
    (d : DependencySet) :
    let x := ({ pool := p } : Analyzer).analyze c d
    let y := ({ pool := q } : Analyzer).analyze c d
    (c = ModuleName.baseComponent → x = ⟨d, []⟩ ∧ y = ⟨d, []⟩) ∧
      (c ≠ ModuleName.baseComponent →
        ((¬∃ M, p.Holds c M) ∧ (¬∃ N, q.Holds c N) ∧
          x.dependencies = d ∧ y.dependencies = d ∧
          x.codes = [.manifestParseError] ∧ y.codes = [.manifestParseError]) ∨
        ((∃ M, p.Holds c M) ∧ (∃ N, q.Holds c N) ∧
          x.dependencies.sorted = y.dependencies.sorted ∧ x.codes.Perm y.codes)) := by
  intro x y
  refine ⟨fun hc => ⟨Analyzer.analyze_of_exempt hc d, Analyzer.analyze_of_exempt hc d⟩,
    fun hc => ?_⟩
  rcases Manifest.alike_parse h (ModuleName.descriptorOf c) with
    ⟨e, f, he, hf⟩ | ⟨M, N, hM, hN, halike⟩
  · have hx : x = _ := Analyzer.analyze_of_invalid hc hp he d
    have hy : y = _ := Analyzer.analyze_of_invalid hc hq hf d
    rw [hx, hy]
    exact .inl ⟨hp.not_holds he, hq.not_holds hf, rfl, rfl, rfl, rfl⟩
  · have hx : x = _ := Analyzer.analyze_of_holds rfl hc ⟨bs, hp, hM⟩ d
    have hy : y = _ := Analyzer.analyze_of_holds rfl hc ⟨cs, hq, hN⟩ d
    rw [hx, hy]
    refine .inr ⟨⟨M, bs, hp, hM⟩, ⟨N, cs, hq, hN⟩, ?_, halike.codes_perm (some c)⟩
    exact DependencySet.sorted_addAll_congr fun _ => halike.additions_perm.mem_iff

/-- Two libraries in one order and in the other, with the members around
them. -/
theorem analyze_reordered_libraries :
    let ui (libs : List (String × Value)) : Value :=
      .obj [("dependencies", .obj [("libs", .obj libs)])]
    let v : Value := .obj [("id", .null), ("sap.ui5", ui [("a", .null), ("b", .null)])]
    let w : Value := .obj [("sap.ui5", ui [("b", .null), ("a", .null)]), ("id", .null)]
    let analyzer (u : Value) : Analyzer :=
      { pool := .ofTable [("demo/manifest.json", .text (Json.print u))] }
    ((analyzer v).analyze "demo/Component.js" .empty).dependencies.sorted =
      ((analyzer w).analyze "demo/Component.js" .empty).dependencies.sorted := by
  intro ui v w analyzer
  have hui : (ui [("a", .null), ("b", .null)]).Reordered (ui [("b", .null), ("a", .null)]) :=
    .obj (.refl _) (.cons (.obj (.refl _) (.cons (.obj (.swap _ _ _)
      (.cons (.refl _) (.cons (.refl _) .nil))) .nil)) .nil)
  have hvw : v.Reordered w := .obj (.swap _ _ _) (.cons hui (.cons (.refl _) .nil))
  have hv : (analyzer v).pool.Reads "demo/Component.js" (Content.text (Json.print v)).toBytes :=
    ⟨_, rfl, rfl⟩
  have hw : (analyzer w).pool.Reads "demo/Component.js" (Content.text (Json.print w)).toBytes :=
    ⟨_, rfl, rfl⟩
  have h : (Content.bytes (Content.text (Json.print v)).toBytes).Reordered
      (.bytes (Content.text (Json.print w)).toBytes) :=
    ⟨v, w, by decide +kernel, by decide +kernel, hvw⟩
  obtain ⟨-, hother⟩ := analyze_reordered hv hw h .empty
  rcases hother (by decide) with ⟨-, -, hx, hy, -, -⟩ | ⟨-, -, hsorted, -⟩
  · exact congrArg DependencySet.sorted (hx.trans hy.symm)
  · exact hsorted

end ManifestDeps
