/-
ManifestDeps.Manifest.Basic — the parts of a manifest that say what a
component depends on.

A manifest is the descriptor beside a component. Its application section
names data sources; its UI section declares the root view, libraries,
components, component usages, models and routing. Every part is optional,
and an option is `none` both for a missing part and for an explicit null.
Tables keep the order in which they are written.
-/
import ManifestDeps.Json.Value

namespace ManifestDeps

open Json (Value)

/-- Named entries in the order in which they are written. -/
abbrev Table (α : Type) := List (String × α)

/-- Settings of a data source. -/
structure DataSourceSettings where
  /-- The protocol version; kept as written, since only two texts are known. -/
  odataVersion : Value := .null

/-- A backend that models take their data from. -/
structure DataSource where
  /-- The protocol family; OData when it is missing. -/
  type : Option String := none
  settings : Option DataSourceSettings := none

/-- The application section. -/
structure AppSection where
  dataSources : Option (Table DataSource) := none

/-- The view at the root of a component, with its options. -/
structure ViewOptions where
  viewName : Option String := none
  type : Option String := none

/-- The declaration of the root view: a view name alone, or options. -/
inductive RootView where
  | named (viewName : String)
  | options (o : ViewOptions)

/-- Options of a declared library or component. -/
structure DependencyOptions where
  lazy : Bool := false

/-- Declared libraries and components. -/
structure Declarations where
  libs : Option (Table (Option DependencyOptions)) := none
  components : Option (Table (Option DependencyOptions)) := none

/-- The use of another component under a name of its own. -/
structure ComponentUsage where
  name : Option String := none
  /-- Whether the usage is loaded on demand; on when nothing is said. -/
  lazy : Option Bool := none

/-- The configuration of a model. -/
structure ModelConfig where
  type : Option String := none
  dataSource : Option String := none

/-- Routing settings shared by all targets. -/
structure RoutingDefaults where
  routerClass : Option String := none
  targetsClass : Option String := none
  viewPath : Option String := none
  viewName : Option String := none
  viewType : Option String := none

/-- A routing target, which shows a view. -/
structure RoutingTarget where
  viewPath : Option String := none
  viewName : Option String := none
  viewType : Option String := none

/-- Routes, as an array or by name. -/
inductive Routes where
  | list (items : List Value)
  | named (entries : Table Value)

/-- The routing section. -/
structure Routing where
  config : Option RoutingDefaults := none
  routes : Option Routes := none
  targets : Option (Table (Option RoutingTarget)) := none

/-- The UI section. -/
structure UiSection where
  rootView : Option RootView := none
  dependencies : Option Declarations := none
  componentUsages : Option (Table (Option ComponentUsage)) := none
  models : Option (Table (Option ModelConfig)) := none
  routing : Option Routing := none
  /-- URLs of styles and scripts, which name no modules. -/
  resources : Option (Table Value) := none

/-- A manifest. -/
structure Manifest where
  app : AppSection := {}
  ui : UiSection := {}

/-- The data source of a name. -/
def Manifest.dataSource? (m : Manifest) (name : String) : Option DataSource :=
  (m.app.dataSources.getD []).lookup name

end ManifestDeps
