/-
ManifestDeps.Diagnostic.Code — the situations that are reported, and the
message template of each.

A template is a list of pieces: literal text, and fields that stand for
the value of a name in the context of a report.
-/
import ManifestDeps.Text.Quoted

namespace ManifestDeps

/-- How grave a report is. -/
inductive Severity where
  | verbose
  | warn
  | error
  deriving Repr, DecidableEq

namespace Severity

/-- All severities. -/
def all : List Severity := [verbose, warn, error]

/-- The word for a severity. -/
def name : Severity → String
  | verbose => "verbose"
  | warn => "warn"
  | error => "error"

/-- The severity of a word. -/
def ofName? (s : String) : Option Severity :=
  all.find? fun x => x.name == s

end Severity

/-- The situations that are reported. -/
inductive DiagnosticCode where
  | manifestNotFound
  | manifestParseError
  | analysisFailed
  | dependencyAdded
  | rootViewNameMissing
  | componentUsageNameMissing
  | dataSourceNotFound
  | unknownODataVersion
  | unknownDataSourceType
  | modelTypeUndefined
  | routingTargetViewTypeMissing
  deriving Repr, DecidableEq

/-- A piece of a message template. -/
inductive Piece where
  | text (s : String)
  | field (name : String)
  deriving Repr, DecidableEq

namespace DiagnosticCode

/-- All codes. -/
def all : List DiagnosticCode :=
  [manifestNotFound, manifestParseError, analysisFailed, dependencyAdded, rootViewNameMissing,
    componentUsageNameMissing, dataSourceNotFound, unknownODataVersion, unknownDataSourceType,
    modelTypeUndefined, routingTargetViewTypeMissing]

/-- The word for a code. -/
def name : DiagnosticCode → String
  | manifestNotFound => "manifest_not_found"
  | manifestParseError => "manifest_parse_error"
  | analysisFailed => "analysis_failed"
  | dependencyAdded => "dependency_added"
  | rootViewNameMissing => "root_view_name_missing"
  | componentUsageNameMissing => "component_usage_name_missing"
  | dataSourceNotFound => "data_source_not_found"
  | unknownODataVersion => "unknown_odata_version"
  | unknownDataSourceType => "unknown_data_source_type"
  | modelTypeUndefined => "model_type_undefined"
  | routingTargetViewTypeMissing => "routing_target_view_type_missing"

/-- The code of a word. -/
def ofName? (s : String) : Option DiagnosticCode :=
  all.find? fun x => x.name == s

/-- The message template of a code. -/
def template : DiagnosticCode → List Piece
  | manifestNotFound =>
    [.text "No manifest found for '", .field "component", .text "', skipping analysis"]
  | manifestParseError =>
    [.text "Failed to parse manifest '", .field "manifest", .text "' of component '",
      .field "component", .text "' (ignored): ", .field "error"]
  | analysisFailed =>
    [.text "An error occurred while analyzing component '", .field "component",
      .text "' (ignored): ", .field "error"]
  | dependencyAdded =>
    [.text "Adding ", .field "rule", .text " dependency '", .field "module",
      .text "' (conditional: ", .field "conditional", .text ")"]
  | rootViewNameMissing => [.text "Root view is configured without a viewName"]
  | componentUsageNameMissing =>
    [.text "Component usage '", .field "usage", .text "' does not define a component name"]
  | dataSourceNotFound =>
    [.text "Provided dataSource '", .field "data_source", .text "' for model '",
      .field "model", .text "' does not exist"]
  | unknownODataVersion =>
    [.text "Provided OData version '", .field "odata_version", .text "' in dataSource '",
      .field "data_source", .text "' for model '", .field "model", .text "' is unknown"]
  | unknownDataSourceType =>
    [.text "Unknown dataSource type '", .field "data_source_type",
      .text "' defined for model '", .field "model",
      .text "'. Please configure a 'type' in the model config"]
  | modelTypeUndefined =>
    [.text "Neither a type nor a dataSource has been defined for model '", .field "model",
      .text "'"]
  | routingTargetViewTypeMissing =>
    [.text "Routing target '", .field "target",
      .text "' has no viewType and the routing config defines none"]

end DiagnosticCode

/-- A word that names no severity or no code. -/
inductive UnknownWord where
  | severity (word : String)
  | code (word : String)
  deriving Repr, DecidableEq

/-- The wording of an unknown word. -/
def UnknownWord.message : UnknownWord → String
  | severity word => Text.quoted word ++ " is not a valid Severity"
  | code word => Text.quoted word ++ " is not a valid DiagnosticCode"

end ManifestDeps
