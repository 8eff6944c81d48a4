/-
ManifestDeps.CommandLine.Help — the help texts of the program.

A help text has a usage line, what the scope does, and a table of the
options; that of the program also lists the commands.
-/
import ManifestDeps.CommandLine.Option

namespace ManifestDeps.CommandLine

/-- The line that shows how a scope is called. -/
def Scope.usage : Scope → String
  | program => "Usage: " ++ programName ++ " [OPTIONS] COMMAND [ARGS]..."
  | command c => "Usage: " ++ (command c).path ++ " [OPTIONS] " ++ " ".intercalate c.operands

/-- What a scope does. -/
def Scope.description : Scope → List String
  | program => [
      "Derive module dependencies of UI5 components from their manifest.json.",
      "",
      "Library, component and component usage declarations, the root view, model",
      "classes and routing targets are turned into required or conditional module",
      "dependencies."]
  | command .analyze => [
      Command.analyze.purpose,
      "",
      "Module names are taken relative to ROOT, so ROOT should be the resource root",
      "of the project (e.g. webapp/ or the build output).",
      "",
      "Examples:",
      "",
      "    component-analyzer analyze ./dist",
      "",
      "    component-analyzer analyze ./dist --format yaml --log-level DEBUG"]
  | command .single => [Command.single.purpose]

/-- A line below a heading, unless it is empty. -/
def indented (line : String) : String :=
  if line = "" then "" else "  " ++ line

/-- The lines of a table of two columns, the second two blanks behind the
widest entry of the first. -/
def tableLines (rows : List (String × String)) : List String :=
  let width := (rows.map fun r => r.1.length).foldl max 0
  rows.map fun r =>
    "  " ++ r.1 ++ String.ofList (List.replicate (width - r.1.length + 2) ' ') ++ r.2

/-- The row of an option. -/
def Flag.row (f : Flag) : String × String :=
  (", ".intercalate f.forms ++ f.valueName?.elim "" (" " ++ ·), f.purpose)

/-- The lines of a help text. -/
def Scope.helpLines (s : Scope) : List String :=
  [s.usage, ""] ++ s.description.map indented ++ ["", "Options:"] ++
    tableLines (s.flags.map Flag.row) ++
    match s with
    | program => ["", "Commands:"] ++ tableLines (Command.all.map fun c => (c.name, c.purpose))
    | command _ => []

/-- Lines, each with its line feed. -/
def textOfLines (lines : List String) : String :=
  String.join (lines.map (· ++ "\n"))

/-- A help text. -/
def Scope.help (s : Scope) : String :=
  textOfLines s.helpLines

/-- The text that names the version. -/
def versionText : String :=
  programName ++ ", version " ++ version ++ "\n"

end ManifestDeps.CommandLine
