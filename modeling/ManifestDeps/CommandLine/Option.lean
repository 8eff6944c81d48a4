/-
ManifestDeps.CommandLine.Option — the commands of the program and their
options.
-/
import ManifestDeps.Settings.Basic

namespace ManifestDeps.CommandLine

/-- The name of the program. -/
def programName : String := "component-analyzer"

/-- The version of the program. -/
def version : String := "0.1.0"

/-- An option. -/
inductive Flag where
  | config
  | format
  | logLevel
  | maxConcurrency
  | version
  | help
  deriving Repr, DecidableEq

namespace Flag

/-- The short form of an option. -/
def short? : Flag → Option String
  | config => some "-c"
  | format => some "-f"
  | _ => none

/-- The long form of an option. -/
def long : Flag → String
  | config => "--config"
  | format => "--format"
  | logLevel => "--log-level"
  | maxConcurrency => "--max-concurrency"
  | version => "--version"
  | help => "--help"

/-- What a help text calls the value of an option; nothing if it has none. -/
def valueName? : Flag → Option String
  | config => some "FILE"
  | format => some ("[" ++ "|".intercalate (OutputFormat.all.map OutputFormat.name) ++ "]")
  | logLevel => some "TEXT"
  | maxConcurrency => some "INTEGER"
  | version => none
  | help => none

/-- The option is followed by a value. -/
def takesValue (f : Flag) : Bool :=
  f.valueName?.isSome

/-- What an option is for. -/
def purpose : Flag → String
  | config => "YAML settings file"
  | format => "Output format"
  | logLevel => "Logging level (DEBUG, INFO, WARNING, ERROR)"
  | maxConcurrency => "Components analyzed at once"
  | version => "Show the version and exit."
  | help => "Show this message and exit."

/-- All forms of an option. -/
def forms (f : Flag) : List String :=
  f.short?.toList ++ [f.long]

end Flag

/-- A command: all components below a directory, or a single one. -/
inductive Command where
  | analyze
  | single
  deriving Repr, DecidableEq

namespace Command

/-- All commands. -/
def all : List Command := [analyze, single]

/-- The word for a command. -/
def name : Command → String
  | analyze => "analyze"
  | single => "show"

/-- What a command does. -/
def purpose : Command → String
  | analyze => "Analyze every Component.js below ROOT."
  | single => "Analyze a single COMPONENT (module path relative to ROOT)."

/-- The options of a command. -/
def flags : Command → List Flag
  | analyze => [.config, .format, .logLevel, .maxConcurrency, .help]
  | single => [.config, .format, .logLevel, .help]

/-- The arguments of a command. -/
def operands : Command → List String
  | analyze => ["ROOT"]
  | single => ["ROOT", "COMPONENT"]

/-- The command of a word. -/
def ofName? (s : String) : Option Command :=
  all.find? fun c => c.name == s

end Command

/-- What reads arguments: the program itself, or one of its commands. -/
inductive Scope where
  | program
  | command (c : Command)
  deriving Repr, DecidableEq

namespace Scope

/-- The options of a scope. -/
def flags : Scope → List Flag
  | program => [.version, .help]
  | command c => c.flags

/-- The words that call a scope. -/
def path : Scope → String
  | program => programName
  | command c => programName ++ " " ++ c.name

/-- Options may stand behind other arguments. -/
def mixesOptions : Scope → Bool
  | program => false
  | command _ => true

end Scope

end ManifestDeps.CommandLine
