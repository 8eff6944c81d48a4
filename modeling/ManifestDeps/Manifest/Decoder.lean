/-
ManifestDeps.Manifest.Decoder — manifests from JSON values.

Each kind of record is checked field by field, in the order of its
declaration; members that are no field of it are ignored. Of the two
sections of a manifest, one that is null counts as missing.
-/
import ManifestDeps.Manifest.Basic
import ManifestDeps.Validation

namespace ManifestDeps

open Json (Value)

/-- A field with one name only. -/
def FieldName.single (name : String) : FieldName :=
  ⟨name, name⟩

/-- Check the settings of a data source. -/
def DataSourceSettings.check : Check DataSourceSettings :=
  .record "DataSourceSettings" fun place ms =>
    (fun v => { odataVersion := v.getD .null })
      <$> Check.any.field ⟨"odataVersion", "odata_version"⟩ place ms

/-- Check a data source. -/
def DataSource.check : Check DataSource :=
  .record "DataSource" fun place ms =>
    DataSource.mk
      <$> Check.text.field (.single "type") place ms
      <*> DataSourceSettings.check.field (.single "settings") place ms

/-- Check the application section. -/
def AppSection.check : Check AppSection :=
  .record "SapApp" fun place ms =>
    AppSection.mk
      <$> (Check.table DataSource.check).field ⟨"dataSources", "data_sources"⟩ place ms

/-- Check the options of the root view. -/
def ViewOptions.check : Check ViewOptions :=
  .record "RootView" fun place ms =>
    ViewOptions.mk
      <$> Check.text.field ⟨"viewName", "view_name"⟩ place ms
      <*> Check.text.field (.single "type") place ms

/-- Check the root view: a text, or else options. A value that is neither
is reported as not being a text and with what is wrong with it as options. -/
def RootView.check : Check RootView := fun place v =>
  match v with
  | .str s => .ok (.named s)
  | v =>
    match ViewOptions.check (place ++ [.key "RootView"]) v with
    | .ok o => .ok (.options o)
    | .faults fs => .faults (⟨.notText, place ++ [.key "str"]⟩ :: fs)

/-- Check the options of a declared library or component. -/
def DependencyOptions.check : Check DependencyOptions :=
  .record "DependencyDeclaration" fun _ ms =>
    .ok { lazy := ((FieldName.single "lazy").find? ms).any fun m => m.2.isSet }

/-- Check the declared libraries and components. -/
def Declarations.check : Check Declarations :=
  .record "Dependencies" fun place ms =>
    Declarations.mk
      <$> (Check.table (.nullable DependencyOptions.check)).field (.single "libs") place ms
      <*> (Check.table (.nullable DependencyOptions.check)).field (.single "components") place ms

/-- Check a component usage. -/
def ComponentUsage.check : Check ComponentUsage :=
  .record "ComponentUsage" fun place ms =>
    ComponentUsage.mk
      <$> Check.text.field (.single "name") place ms
      <*> Check.switch.field (.single "lazy") place ms

/-- Check the configuration of a model. -/
def ModelConfig.check : Check ModelConfig :=
  .record "ModelConfig" fun place ms =>
    ModelConfig.mk
      <$> Check.text.field (.single "type") place ms
      <*> Check.text.field ⟨"dataSource", "data_source"⟩ place ms

/-- Check the shared routing settings. -/
def RoutingDefaults.check : Check RoutingDefaults :=
  .record "RoutingDefaults" fun place ms =>
    RoutingDefaults.mk
      <$> Check.text.field ⟨"routerClass", "router_class"⟩ place ms
      <*> Check.text.field ⟨"targetsClass", "targets_class"⟩ place ms
      <*> Check.text.field ⟨"viewPath", "view_path"⟩ place ms
      <*> Check.text.field ⟨"viewName", "view_name"⟩ place ms
      <*> Check.text.field ⟨"viewType", "view_type"⟩ place ms

/-- Check a routing target. -/
def RoutingTarget.check : Check RoutingTarget :=
  .record "RoutingTarget" fun place ms =>
    RoutingTarget.mk
      <$> Check.text.field ⟨"viewPath", "view_path"⟩ place ms
      <*> Check.text.field ⟨"viewName", "view_name"⟩ place ms
      <*> Check.text.field ⟨"viewType", "view_type"⟩ place ms

/-- Check the routes: an array or an object, of anything. -/
def Routes.check : Check Routes := fun place v =>
  match v with
  | .arr items => .ok (.list items)
  | .obj ms => .ok (.named ms)
  | _ => .faults [⟨.notList, place ++ [.key "list[any]"]⟩,
      ⟨.notMapping, place ++ [.key "dict[str,any]"]⟩]

/-- Check the routing section. -/
def Routing.check : Check Routing :=
  .record "Routing" fun place ms =>
    Routing.mk
      <$> RoutingDefaults.check.field (.single "config") place ms
      <*> Routes.check.field (.single "routes") place ms
      <*> (Check.table (.nullable RoutingTarget.check)).field (.single "targets") place ms

/-- Check the UI section. -/
def UiSection.check : Check UiSection :=
  .record "SapUi5" fun place ms =>
    UiSection.mk
      <$> RootView.check.field ⟨"rootView", "root_view"⟩ place ms
      <*> Declarations.check.field (.single "dependencies") place ms
      <*> (Check.table (.nullable ComponentUsage.check)).field
            ⟨"componentUsages", "component_usages"⟩ place ms
      <*> (Check.table (.nullable ModelConfig.check)).field (.single "models") place ms
      <*> Routing.check.field (.single "routing") place ms
      <*> (Check.table Check.any).field (.single "resources") place ms

/-- A section whose main name is bound to null is taken as missing. -/
def isDroppedSection (m : String × Value) : Bool :=
  (m.1 == "sap.app" || m.1 == "sap.ui5") && m.2 == .null

/-- Check a section of a manifest; a missing one is empty. -/
def Check.section {α : Type} (c : Check α) (missing : α) (f : FieldName)
    (ms : List (String × Value)) : Checked α :=
  match f.find? ms with
  | none => .ok missing
  | some (name, v) => c [.key name] v

/-- Check the members of a manifest. -/
def Manifest.checkMembers (ms : List (String × Value)) : Checked Manifest :=
  let ms := ms.filter fun m => !isDroppedSection m
  Manifest.mk
    <$> AppSection.check.section {} ⟨"sap.app", "sap_app"⟩ ms
    <*> UiSection.check.section {} ⟨"sap.ui5", "sap_ui5"⟩ ms

end ManifestDeps
