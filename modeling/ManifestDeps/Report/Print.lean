/-
ManifestDeps.Report.Print — printing a report in one of its forms.

JSON and YAML are printed as a whole. The form for terminals is a table for
each component, with its diagnostics below; printing stops at a text whose
markup is wrong, and what was printed before stays.
-/
import ManifestDeps.Json.Printer
import ManifestDeps.Libraries
import ManifestDeps.Report.Basic
import ManifestDeps.Report.Table
import ManifestDeps.Settings.Basic
import ManifestDeps.Yaml.Printer

namespace ManifestDeps

open Markup (MarkupError)

/-- What was printed, and why printing stopped if it did. -/
structure Printed where
  text : String := ""
  error : Option MarkupError := none
  deriving Repr, DecidableEq

/-- Lines as text, each with its line feed. -/
def linesText (lines : List (List Char)) : String :=
  String.ofList (lines.flatMap (· ++ ['\n']))

/-- Print texts up to the first that fails. -/
def Printed.ofTexts : List (Except MarkupError (List (List Char))) → Printed
  | [] => {}
  | .error e :: _ => { error := some e }
  | .ok lines :: rest =>
    let below := Printed.ofTexts rest
    { below with text := linesText lines ++ below.text }

/-- The style in which a severity is shown. -/
def Severity.style : Severity → String
  | error => "red"
  | _ => "yellow"

/-- A diagnostic below a table, with its markup, and with a text behind its
message. -/
def Diagnostic.tableText (d : Diagnostic) (behind : String) : String :=
  let style := d.severity.style
  "  [" ++ style ++ "]" ++ d.severity.name ++ "[/" ++ style ++ "] " ++ d.message ++ behind

/-- The texts of an entry: its table and its diagnostics. -/
def ReportEntry.texts (libraries : Libraries) (component : String) (e : ReportEntry) :
    List (Except MarkupError (List (List Char))) :=
  dependencyTable libraries.shown component e.dependencies ::
    e.diagnostics.map fun d =>
      printedLines libraries.shown (d.tableText (libraries.behindMessage d))

/-- A report for a terminal. -/
def Report.toTables (libraries : Libraries) (r : Report) : Printed :=
  Printed.ofTexts (r.flatMap fun e => e.2.texts libraries e.1)

/-- Print a report. -/
def Report.print (r : Report) (f : OutputFormat) (libraries : Libraries := {}) : Printed :=
  match f with
  | .json => { text := Json.print r.toJson ++ "\n" }
  | .yaml => { text := Yaml.printMembers r.members ++ "\n" }
  | .table => r.toTables libraries

end ManifestDeps
