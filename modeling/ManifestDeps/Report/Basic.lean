/-
ManifestDeps.Report.Basic — the report on analyzed components.

For each component there is an entry with its dependencies, in order of
their paths, and with the warnings and errors that name it, in the order
in which they were made.
-/
import ManifestDeps.DependencySet
import ManifestDeps.Diagnostic.Basic

namespace ManifestDeps

open Json (Value)

/-- The entry of a report on one component. -/
structure ReportEntry where
  dependencies : List (String × Strength) := []
  diagnostics : List Diagnostic := []
  deriving DecidableEq

/-- Entries by component. -/
abbrev Report := List (String × ReportEntry)

/-- A diagnostic that reports keep: a warning or an error. -/
def Diagnostic.isReported (d : Diagnostic) : Bool :=
  d.severity != .verbose

/-- The diagnostics that belong to the entry of a component. -/
def reportedFor (component : String) (ds : List Diagnostic) : List Diagnostic :=
  ds.filter fun d => d.isReported && d.component? == some component

/-- The report on the results of an analysis and the diagnostics made on
the way. -/
def Report.ofResults (results : List (String × DependencySet)) (ds : List Diagnostic) : Report :=
  results.map fun r => (r.1, ⟨r.2.sorted, reportedFor r.1 ds⟩)

/-! ## As a JSON value -/

/-- A diagnostic as an object, all details of its context as texts. -/
def Diagnostic.toJson (d : Diagnostic) : Value :=
  .obj [
    ("severity", .str d.severity.name),
    ("code", .str d.code.name),
    ("message", .str d.message),
    ("context", .obj (d.context.map fun e => (e.1, .str e.2.text)))]

/-- An entry as an object. -/
def ReportEntry.toJson (e : ReportEntry) : Value :=
  .obj [
    ("dependencies", .obj (e.dependencies.map fun d => (d.1, .str d.2.name))),
    ("diagnostics", .arr (e.diagnostics.map Diagnostic.toJson))]

/-- The members of a report as an object. -/
def Report.members (r : Report) : List (String × Value) :=
  r.map fun e => (e.1, e.2.toJson)

/-- A report as an object. -/
def Report.toJson (r : Report) : Value :=
  .obj r.members

end ManifestDeps
