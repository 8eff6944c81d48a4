/-
ManifestDeps.Proofs.ViewTheorems — the objects that a manifest is made of,
and how much of them the rules see.

`RecordKind` lists the kinds of objects in a manifest, from the manifest
itself down to a routing target. `RecordKind.fields` says under which names
their fields stand and what these hold.

Manifests are compared with a `Precision`: exactly, or up to what no rule
looks at, which are the items of routes and resources and whether an entry
of a table is null or empty. A view of a manifest makes this precise. The
rules derive the same from a manifest and from its view
(`Manifest.derivations_view`), whatever the precision.
-/
import ManifestDeps.Proofs.UnreadFieldTheorems

namespace ManifestDeps

open Json (Value)
open TargetView (nonEmpty?)

/-! ## §1 The objects of a manifest -/

/-- The kinds of objects that a manifest is made of. -/
inductive RecordKind where
  | manifest | app | source | sourceSettings | ui | rootView | declarations | declared
  | usage | model | routing | routingDefaults | target
  deriving DecidableEq

/-- What a field of an object holds. -/
inductive FieldKind where
  /-- A value that is read as a whole. -/
  | plain
  /-- An array or an object that no rule looks into. -/
  | collection
  /-- An object of a kind. -/
  | record (k : RecordKind)
  /-- Named objects of a kind, some of them null if that is allowed. -/
  | table (k : RecordKind) (nullable : Bool)
  deriving DecidableEq

deriving instance DecidableEq for FieldName

/-- The two names of a field, which may be the same. -/
def FieldName.names (f : FieldName) : List String :=
  [f.main, f.second]

namespace RecordKind

/-- The fields of an object, and what they hold. -/
def fields : RecordKind → List (FieldName × FieldKind)
  | manifest => [(⟨"sap.app", "sap_app"⟩, .record app), (⟨"sap.ui5", "sap_ui5"⟩, .record ui)]
  | app => [(⟨"dataSources", "data_sources"⟩, .table source false)]
  | source => [(.single "type", .plain), (.single "settings", .record sourceSettings)]
  | sourceSettings => [(⟨"odataVersion", "odata_version"⟩, .plain)]
  | ui => [(⟨"rootView", "root_view"⟩, .record rootView),
      (.single "dependencies", .record declarations),
      (⟨"componentUsages", "component_usages"⟩, .table usage true),
      (.single "models", .table model true), (.single "routing", .record routing),
      (.single "resources", .collection)]
  | rootView => [(⟨"viewName", "view_name"⟩, .plain), (.single "type", .plain)]
  | declarations => [(.single "libs", .table declared true),
      (.single "components", .table declared true)]
  | declared => [(.single "lazy", .plain)]
  | usage => [(.single "name", .plain), (.single "lazy", .plain)]
  | model => [(.single "type", .plain), (⟨"dataSource", "data_source"⟩, .plain)]
  | routing => [(.single "config", .record routingDefaults), (.single "routes", .collection),
      (.single "targets", .table target true)]
  | routingDefaults => [(⟨"routerClass", "router_class"⟩, .plain),
      (⟨"targetsClass", "targets_class"⟩, .plain), (⟨"viewPath", "view_path"⟩, .plain),
      (⟨"viewName", "view_name"⟩, .plain), (⟨"viewType", "view_type"⟩, .plain)]
  | target => [(⟨"viewPath", "view_path"⟩, .plain), (⟨"viewName", "view_name"⟩, .plain),
      (⟨"viewType", "view_type"⟩, .plain)]

/-- A name belongs to one field only. -/
theorem fields_unique (k : RecordKind) : ∀ e ∈ k.fields, ∀ e' ∈ k.fields, ∀ name ∈ e.1.names,
    name ∈ e'.1.names → e = e' := by
  cases k <;> decide

/-- What an object is read as. -/
def Record : RecordKind → Type
  | manifest => Manifest
  | app => AppSection
  | source => DataSource
  | sourceSettings => DataSourceSettings
  | ui => UiSection
  | rootView => RootView
  | declarations => Declarations
  | declared => DependencyOptions
  | usage => ComponentUsage
  | model => ModelConfig
  | routing => Routing
  | routingDefaults => RoutingDefaults
  | target => RoutingTarget

/-- How an object is checked. -/
def check : (k : RecordKind) → Check k.Record
  | manifest => .record "AppDescriptor" fun _ ms => Manifest.checkMembers ms
  | app => AppSection.check
  | source => DataSource.check
  | sourceSettings => DataSourceSettings.check
  | ui => UiSection.check
  | rootView => RootView.check
  | declarations => Declarations.check
  | declared => DependencyOptions.check
  | usage => ComponentUsage.check
  | model => ModelConfig.check
  | routing => Routing.check
  | routingDefaults => RoutingDefaults.check
  | target => RoutingTarget.check

/-- The record without any field. -/
def empty : (k : RecordKind) → k.Record
  | manifest => ({} : Manifest)
  | app => ({} : AppSection)
  | source => ({} : DataSource)
  | sourceSettings => ({} : DataSourceSettings)
  | ui => ({} : UiSection)
  | rootView => .options {}
  | declarations => ({} : Declarations)
  | declared => ({} : DependencyOptions)
  | usage => ({} : ComponentUsage)
  | model => ({} : ModelConfig)
  | routing => ({} : Routing)
  | routingDefaults => ({} : RoutingDefaults)
  | target => ({} : RoutingTarget)

/-- No field is needed. -/
theorem check_empty (k : RecordKind) (place : Place) :
    k.check place (.obj []) = .ok k.empty := by
  cases k <;> rfl

/-- An entry of a table. -/
def Entry (k : RecordKind) : (nullable : Bool) → Type
  | true => Option k.Record
  | false => k.Record

/-- How an entry of a table is checked. -/
def entryCheck (k : RecordKind) : (nullable : Bool) → Check (k.Entry nullable)
  | true => .nullable k.check
  | false => k.check

end RecordKind

/-! ## §2 Comparing manifests -/

/-- How closely manifests are compared. -/
inductive Precision where
  | exact
  /-- Up to what no rule looks at: the items of routes and resources, and
  whether an entry of a table is null or empty. -/
  | relevant

namespace Precision

variable {α β : Type}

/-- What is seen of an entry that may be null. -/
def entry (p : Precision) (empty : α) (o : Option α) : Option α :=
  match p with
  | exact => o
  | relevant => some (o.getD empty)

/-- What is seen of entries that may be null. -/
def entries (p : Precision) (empty : α) (t : Table (Option α)) : Table (Option α) :=
  t.map (Prod.map id (p.entry empty))

/-- What is seen of routes. -/
def routes (p : Precision) (r : Routes) : Routes :=
  match p with
  | exact => r
  | relevant => .list []

/-- What is seen of resources. -/
def resources (p : Precision) (t : Table Value) : Table Value :=
  match p with
  | exact => t
  | relevant => []

@[simp] theorem entry_some (p : Precision) (empty a : α) : p.entry empty (some a) = some a := by
  cases p <;> rfl

@[simp] theorem entry_exact (empty : α) : exact.entry empty = id := rfl

@[simp] theorem entries_exact (empty : α) : exact.entries empty = id := by
  funext t
  simp [entries]

@[simp] theorem routes_exact : exact.routes = id := rfl

@[simp] theorem resources_exact : exact.resources = id := rfl

/-- What does not tell a null entry from an empty one sees all of a table. -/
theorem map_entries (p : Precision) {empty : α} {f : String × Option α → β}
    (hf : ∀ name, f (name, some empty) = f (name, none)) (t : Table (Option α)) :
    (p.entries empty t).map f = t.map f := by
  rw [entries, List.map_map]
  refine List.map_congr_left fun e _ => ?_
  obtain ⟨name, o⟩ := e
  cases p with
  | exact => rfl
  | relevant =>
    cases o with
    | none => exact hf name
    | some a => rfl

end Precision

/-- What is seen of libraries and components. -/
def Declarations.view (p : Precision) (x : Declarations) : Declarations where
  libs := x.libs.map (p.entries {})
  components := x.components.map (p.entries {})

/-- What is seen of the routing section. -/
def Routing.view (p : Precision) (x : Routing) : Routing where
  config := x.config
  routes := x.routes.map p.routes
  targets := x.targets.map (p.entries {})

/-- What is seen of the UI section. -/
def UiSection.view (p : Precision) (x : UiSection) : UiSection where
  rootView := x.rootView
  dependencies := x.dependencies.map (Declarations.view p)
  componentUsages := x.componentUsages.map (p.entries {})
  models := x.models.map (p.entries {})
  routing := x.routing.map (Routing.view p)
  resources := x.resources.map p.resources

/-- What is seen of a manifest. -/
def Manifest.view (p : Precision) (x : Manifest) : Manifest where
  app := x.app
  ui := x.ui.view p

/-- What is seen of a record of any kind. -/
def RecordKind.view (p : Precision) : (k : RecordKind) → k.Record → k.Record
  | manifest => Manifest.view p
  | ui => UiSection.view p
  | declarations => Declarations.view p
  | routing => Routing.view p
  | app | source | sourceSettings | rootView | declared | usage | model | routingDefaults
  | target => id

/-- What is seen of an entry of a table. -/
def RecordKind.entryView (p : Precision) (k : RecordKind) :
    (nullable : Bool) → k.Entry nullable → k.Entry nullable
  | true => fun o => (p.entry k.empty o).map (k.view p)
  | false => k.view p

/-! ### Nothing is lost in an exact view -/

@[simp] theorem Declarations.view_exact : view .exact = id := by
  funext x
  simp [view]

@[simp] theorem Routing.view_exact : view .exact = id := by
  funext x
  simp [view]

@[simp] theorem UiSection.view_exact : view .exact = id := by
  funext x
  simp [view]

@[simp] theorem Manifest.view_exact : view .exact = id := by
  funext x
  simp [view]

/-! ### No rule sees a difference -/

section Rules

variable (p : Precision) (M : Manifest)

theorem Manifest.libraries_view :
    (M.view p).libraries = p.entries {} M.libraries := by
  cases hd : M.ui.dependencies with
  | none => simp [libraries, view, UiSection.view, hd, Precision.entries]
  | some x =>
    cases hl : x.libs <;>
      simp [libraries, view, UiSection.view, Declarations.view, hd, hl, Precision.entries]

theorem Manifest.components_view :
    (M.view p).components = p.entries {} M.components := by
  cases hd : M.ui.dependencies with
  | none => simp [components, view, UiSection.view, hd, Precision.entries]
  | some x =>
    cases hc : x.components <;>
      simp [components, view, UiSection.view, Declarations.view, hd, hc, Precision.entries]

theorem Manifest.usages_view : (M.view p).usages = p.entries {} M.usages := by
  cases hu : M.ui.componentUsages <;>
    simp [usages, view, UiSection.view, hu, Precision.entries]

theorem Manifest.models_view : (M.view p).models = p.entries {} M.models := by
  cases hm : M.ui.models <;> simp [models, view, UiSection.view, hm, Precision.entries]

theorem Precision.lookup_entries {α : Type} (empty : α) (t : Table (Option α)) (name : String) :
    (p.entries empty t).lookup name = (t.lookup name).map (p.entry empty) := by
  induction t with
  | nil => rfl
  | cons e rest ih =>
    obtain ⟨k, o⟩ := e
    rw [entries, List.map_cons, ← entries, Prod.map_apply, id, Table.lookup_cons_eq_ite,
      Table.lookup_cons_eq_ite, ih]
    split <;> rfl

/-- What is asked of the entry of a model, if it says nothing when nothing
is configured. -/
theorem Precision.bind_lookup_entries {α β : Type} {empty : α} {f : α → Option β}
    (hf : f empty = none) (t : Table (Option α)) (name : String) :
    ((p.entries empty t).lookup name).join.bind f = (t.lookup name).join.bind f := by
  rw [lookup_entries]
  cases p with
  | exact => simp
  | relevant =>
    rcases t.lookup name with _ | _ | a
    · rfl
    · exact hf
    · rfl

theorem Manifest.modelFinding_view (name : String) :
    (M.view p).modelFinding name = M.modelFinding name := by
  have htype := p.bind_lookup_entries (f := fun c => nonEmpty? c.type)
    (show nonEmpty? ({} : ModelConfig).type = none from rfl) M.models name
  have hsource := p.bind_lookup_entries (f := fun c => nonEmpty? c.dataSource)
    (show nonEmpty? ({} : ModelConfig).dataSource = none from rfl) M.models name
  rw [← models_view, models, models] at htype hsource
  unfold modelFinding
  rw [modelClass_eq, modelClass_eq, htype, hsource]
  rfl

theorem Routing.findings_view (r : Routing) :
    (r.view p).classFindings ++
        ((r.view p).targets.getD []).flatMap (targetFindings (r.view p).config) =
      r.classFindings ++ (r.targets.getD []).flatMap (targetFindings r.config) := by
  have hclass : (r.view p).classFindings = r.classFindings := by
    simp only [classFindings, view, Option.isSome_map]
  have htargets : (r.view p).targets.getD [] = p.entries {} (r.targets.getD []) := by
    cases ht : r.targets <;> simp [view, ht, Precision.entries]
  rw [hclass, htargets, List.flatMap_def, List.flatMap_def, p.map_entries fun _ => rfl]
  rfl

/-- **No rule sees a difference** between a manifest and its view. -/
theorem Manifest.derivations_view : (M.view p).derivations = M.derivations := by
  have hlibraries : libraryRule (M.view p) = libraryRule M := by
    rw [libraryRule, libraryRule, ← libraries, ← libraries, libraries_view,
      p.map_entries fun _ => rfl]
  have hcomponents : componentRule (M.view p) = componentRule M := by
    rw [componentRule, componentRule, ← components, ← components, components_view,
      p.map_entries fun _ => rfl]
  have husages : componentUsageRule (M.view p) = componentUsageRule M := by
    rw [componentUsageRule, componentUsageRule, ← usages, ← usages, usages_view,
      p.map_entries fun _ => rfl]
  have hmodels : modelRule (M.view p) = modelRule M := by
    rw [modelRule_eq, modelRule_eq, ← models, ← models, models_view]
    simp only [modelFinding_view]
    rw [p.map_entries fun _ => rfl]
  have hrouting : routingRule (M.view p) = routingRule M := by
    rw [routingRule, routingRule]
    cases hr : M.ui.routing with
    | none => simp [view, UiSection.view, hr]
    | some r => simpa [view, UiSection.view, hr] using
        congrArg (Derivation.ofFindings routingRuleName) (r.findings_view p)
  rw [derivations, derivations, hlibraries, hcomponents, husages, hmodels, hrouting]
  rfl

end Rules

end ManifestDeps
