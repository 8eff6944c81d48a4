/-
ManifestDeps.Derivation — the dependencies that a manifest implies.

Each rule looks at one part of a manifest. For every entry there it finds
a dependency, or a warning about why there is none, or nothing:

* the root view is a required view;
* libraries and components are required, or conditional when lazy;
* component usages are conditional unless they are declared not lazy;
* a model needs its class, which is configured or follows from the data
  source that it names;
* routing needs the router (or the classes behind targets and views), and
  every target its view.
-/
import ManifestDeps.Diagnostic.Basic
import ManifestDeps.ModuleName
import ManifestDeps.TargetView

namespace ManifestDeps

open Json (Value)
open TargetView (nonEmpty?)

/-- A module that a rule derives. -/
structure DerivedDependency where
  module : String
  conditional : Bool := false
  deriving Repr, DecidableEq

/-- What a rule finds for one entry of a manifest. -/
inductive Finding where
  | dependency (d : DerivedDependency)
  | warning (d : Diagnostic)
  deriving DecidableEq

/-- The outcome of one rule. -/
structure Derivation where
  rule : String
  dependencies : List DerivedDependency := []
  diagnostics : List Diagnostic := []
  deriving DecidableEq

namespace Derivation

/-- The outcome of a rule that found these things, in order. -/
def ofFindings (rule : String) (fs : List Finding) : Derivation where
  rule := rule
  dependencies := fs.filterMap fun
    | .dependency d => some d
    | .warning _ => none
  diagnostics := fs.filterMap fun
    | .dependency _ => none
    | .warning d => some d

end Derivation

/-- A rule derives dependencies from a manifest, or fails. -/
abbrev Rule := Manifest → Except Failure Derivation

/-- A warning of a rule. -/
def warning (rule : String) (code : DiagnosticCode) (details : Context) : Diagnostic where
  severity := .warn
  code := code
  context := ("rule", .str rule) :: details

/-! ## Root view -/

/-- The view type that is meant when none is given. -/
def defaultViewType : String := "XML"

/-- The rule's name in reports. -/
def rootViewRuleName : String := "root view"

/-- What the options of a root view imply. -/
def ViewOptions.finding (o : ViewOptions) : Finding :=
  match nonEmpty? o.viewName with
  | none => .warning (warning rootViewRuleName .rootViewNameMissing [])
  | some name =>
    let type := (nonEmpty? o.type).getD defaultViewType
    .dependency { module := ModuleName.ofDotted name (some (ModuleName.viewSuffix type)) }

/-- The root view of a manifest. A name alone is an XML view of that name,
and an empty name is no root view. -/
def rootViewFindings (m : Manifest) : List Finding :=
  match m.ui.rootView with
  | none => []
  | some (.named s) =>
    if s = "" then [] else [({ viewName := some s, type := some defaultViewType } :
      ViewOptions).finding]
  | some (.options o) => [o.finding]

/-- Derive the root view. -/
def rootViewRule (m : Manifest) : Derivation :=
  .ofFindings rootViewRuleName (rootViewFindings m)

/-! ## Libraries and components -/

/-- The module of a library. -/
def librarySuffix : String := "/library.js"

/-- The module of a component. -/
def componentSuffix : String := "/Component.js"

/-- The dependency of one declaration. -/
def declarationFinding (suffix : String) (entry : String × Option DependencyOptions) : Finding :=
  .dependency
    { module := ModuleName.ofDotted entry.1 (some suffix)
      conditional := entry.2.any DependencyOptions.lazy }

/-- Derive the declared libraries. -/
def libraryRule (m : Manifest) : Derivation :=
  .ofFindings "library"
    (((m.ui.dependencies.bind Declarations.libs).getD []).map (declarationFinding librarySuffix))

/-- Derive the declared components. -/
def componentRule (m : Manifest) : Derivation :=
  .ofFindings "component"
    (((m.ui.dependencies.bind Declarations.components).getD []).map
      (declarationFinding componentSuffix))

/-! ## Component usages -/

/-- The rule's name in reports. -/
def componentUsageRuleName : String := "component usage"

/-- What one component usage implies. -/
def usageFinding (entry : String × Option ComponentUsage) : Finding :=
  match entry.2.bind fun u => (nonEmpty? u.name).map fun name => (name, u.lazy) with
  | none =>
    .warning (warning componentUsageRuleName .componentUsageNameMissing
      [("usage", .str entry.1)])
  | some (name, lazy) =>
    .dependency
      { module := ModuleName.ofDotted name (some componentSuffix)
        conditional := lazy != some false }

/-- Derive the components that are used. -/
def componentUsageRule (m : Manifest) : Derivation :=
  .ofFindings componentUsageRuleName ((m.ui.componentUsages.getD []).map usageFinding)

/-! ## Models -/

/-- The rule's name in reports. -/
def modelRuleName : String := "model"

/-- The data source type that is meant when none is given. -/
def defaultDataSourceType : String := "OData"

/-- The model class for version 2 of the protocol. -/
def odataV2Model : String := "sap.ui.model.odata.v2.ODataModel"

/-- The model class for version 4 of the protocol. -/
def odataV4Model : String := "sap.ui.model.odata.v4.ODataModel"

/-- The model class for JSON data. -/
def jsonModel : String := "sap.ui.model.json.JSONModel"

/-- The model class for XML data. -/
def xmlModel : String := "sap.ui.model.xml.XMLModel"

/-- The version of a data source, null where none is given. -/
def DataSource.version (source : DataSource) : Value :=
  source.settings.elim .null DataSourceSettings.odataVersion

namespace Derivation

/-- Note some warnings behind those that are there. -/
def noting (d : Derivation) (ws : List Diagnostic) : Derivation :=
  { d with diagnostics := d.diagnostics ++ ws }

/-- Note a warning of the rule. -/
def warn (d : Derivation) (code : DiagnosticCode) (details : Context) : Derivation :=
  d.noting [warning d.rule code details]

/-- Add a required module behind those that are there. -/
def require (d : Derivation) (module : String) : Derivation :=
  { d with dependencies := d.dependencies ++ [{ module := module }] }

end Derivation

/-- The class of a model on a data source; where there is none, a warning
is noted. -/
def DataSource.inferClass (source : DataSource) (sourceName model : String) (d : Derivation) :
    Option String × Derivation :=
  let type := (nonEmpty? source.type).getD defaultDataSourceType
  if type = "OData" then
    if source.version = .str "4.0" then (some odataV4Model, d)
    else if !source.version.isSet || source.version = .str "2.0" then (some odataV2Model, d)
    else
      (none, d.warn .unknownODataVersion
        [("odata_version", .value source.version), ("data_source", .str sourceName),
          ("model", .str model)])
  else if type = "JSON" then (some jsonModel, d)
  else if type = "XML" then (some xmlModel, d)
  else
    (none, d.warn .unknownDataSourceType
      [("data_source_type", .str type), ("model", .str model)])

/-- The class of a model, configured or implied; where there is none, a
warning is noted. -/
def Manifest.inferClass (m : Manifest) (model : String) (d : Derivation) :
    Option String × Derivation :=
  let config := ((m.ui.models.getD []).lookup model).join
  match config.bind fun c => nonEmpty? c.type with
  | some type => (some type, d)
  | none =>
    match config.bind fun c => nonEmpty? c.dataSource with
    | none => (none, d.warn .modelTypeUndefined [("model", .str model)])
    | some sourceName =>
      match m.dataSource? sourceName with
      | none =>
        (none, d.warn .dataSourceNotFound
          [("data_source", .str sourceName), ("model", .str model)])
      | some source => source.inferClass sourceName model d

/-- Go on with one model: its class, if it has one, is required. -/
def Manifest.requireClass (m : Manifest) (d : Derivation) (model : String) : Derivation :=
  match m.inferClass model d with
  | (some type, d) => if type = "" then d else d.require (ModuleName.ofDotted type none)
  | (none, d) => d

/-- Derive the model classes. -/
def modelRule (m : Manifest) : Derivation :=
  (m.ui.models.getD []).foldl (fun d e => m.requireClass d e.1) { rule := modelRuleName }

/-- An answer by itself: the class, or else the warning noted last. -/
def Derivation.answer : Option String × Derivation → Except Diagnostic String
  | (some type, _) => .ok type
  | (none, d) => d.diagnostics.getLast?.elim (.ok "") .error

/-- The class of a model on a data source, or a warning about why none is
known. -/
def DataSource.modelClass (source : DataSource) (sourceName model : String) :
    Except Diagnostic String :=
  Derivation.answer (source.inferClass sourceName model { rule := modelRuleName })

/-- The class of a model of a manifest, or a warning about why none is
known. -/
def Manifest.modelClass (m : Manifest) (model : String) : Except Diagnostic String :=
  Derivation.answer (m.inferClass model { rule := modelRuleName })

/-! ## Routing -/

/-- The rule's name in reports. -/
def routingRuleName : String := "routing"

/-- The router that is used when none is configured. -/
def defaultRouterClass : String := "sap.ui.core.routing.Router"

/-- The module behind targets when none is configured. -/
def defaultTargetsModule : String := "sap/ui/core/routing/Targets.js"

/-- The module behind views. -/
def viewsModule : String := "sap/ui/core/routing/Views.js"

/-- The classes that routing needs: a router when there are routes, else
the classes behind targets and views when there are targets. -/
def Routing.classFindings (r : Routing) : List Finding :=
  if r.routes.isSome then
    let router := (r.config.bind fun c => nonEmpty? c.routerClass).getD defaultRouterClass
    [.dependency { module := ModuleName.ofDotted router none }]
  else if r.targets.isSome then
    let targets := match r.config.bind fun c => nonEmpty? c.targetsClass with
      | some name => ModuleName.ofClass name
      | none => defaultTargetsModule
    [.dependency { module := targets }, .dependency { module := viewsModule }]
  else []

/-- What one target implies. A target without a view name of its own shows
no view; one without a type, not even an inherited one, is reported. -/
def targetFindings (defaults : Option RoutingDefaults)
    (entry : String × Option RoutingTarget) : List Finding :=
  match entry.2.filter fun t => (nonEmpty? t.viewName).isSome with
  | none => []
  | some target =>
    let view := TargetView.merge defaults target
    match nonEmpty? view.viewType, view.qualifiedName? with
    | some type, some name =>
      [.dependency { module := ModuleName.ofDotted name (some (ModuleName.viewSuffix type)) }]
    | _, _ =>
      [.warning (warning routingRuleName .routingTargetViewTypeMissing
        [("target", .str entry.1)])]

/-- Derive the modules behind routing. -/
def routingRule (m : Manifest) : Derivation :=
  .ofFindings routingRuleName <|
    match m.ui.routing with
    | none => []
    | some r => r.classFindings ++ (r.targets.getD []).flatMap (targetFindings r.config)

/-! ## All rules -/

/-- The rules, in the order in which they are used. -/
def defaultRules : List Rule :=
  [fun m => .ok (rootViewRule m), fun m => .ok (libraryRule m), fun m => .ok (componentRule m),
    fun m => .ok (componentUsageRule m), fun m => .ok (modelRule m),
    fun m => .ok (routingRule m)]

/-- Run all rules on a manifest; the first failure ends it. -/
def deriveAll (rules : List Rule) (m : Manifest) : Except Failure (List Derivation) :=
  rules.mapM fun rule => rule m

end ManifestDeps
