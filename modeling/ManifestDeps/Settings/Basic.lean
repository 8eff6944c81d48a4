/-
ManifestDeps.Settings.Basic — the settings of an analysis and where each
of them comes from.

A setting is taken from an argument if there is one, else from a variable
of the environment, else from the settings file, else it has its default.
Only the value that is taken is checked; what it hides does not matter. The
settings are written down once they are known, even if nobody reads it.
-/
import ManifestDeps.Diagnostic.Sink
import ManifestDeps.Settings.File
import ManifestDeps.Settings.Integer

namespace ManifestDeps

/-- The form of a report. -/
inductive OutputFormat where
  | table
  | json
  | yaml
  deriving Repr, DecidableEq

namespace OutputFormat

/-- All forms. -/
def all : List OutputFormat := [table, json, yaml]

/-- The word for a form. -/
def name : OutputFormat → String
  | table => "table"
  | json => "json"
  | yaml => "yaml"

/-- The form of a word. -/
def ofName? (s : String) : Option OutputFormat :=
  all.find? fun f => f.name == s

end OutputFormat

/-- The settings of an analysis. -/
structure Settings where
  logLevel : LogLevel
  /-- Most components analyzed at once. -/
  maxConcurrency : Int
  outputFormat : OutputFormat
  /-- Names of directories that are not searched. -/
  ignoreDirs : List String
  deriving Repr, DecidableEq

/-- Names of directories that are not searched by default. -/
def defaultIgnoreDirs : List String :=
  ["node_modules", ".git", ".svn", ".hg", "dist", "build", "test-resources", "__pycache__"]

/-- A setting: its key in a file, its variable, and its default. -/
structure SettingName where
  key : String
  inEnvironment : Option String
  default : Yaml.Value

namespace SettingName

/-- The log level. -/
def logLevel : SettingName :=
  ⟨"log_level", some "COMPONENT_ANALYZER_LOG_LEVEL", .str "WARNING"⟩

/-- The number of components analyzed at once. -/
def maxConcurrency : SettingName :=
  ⟨"max_concurrency", some "COMPONENT_ANALYZER_MAX_CONCURRENCY", .int 8⟩

/-- The form of the report. -/
def outputFormat : SettingName :=
  ⟨"output_format", some "COMPONENT_ANALYZER_OUTPUT_FORMAT", .str "table"⟩

/-- The directories that are not searched. -/
def ignoreDirs : SettingName :=
  ⟨"ignore_dirs", none, .seq (defaultIgnoreDirs.map .str)⟩

/-- The variable that names the settings file. -/
def configVariable : String := "COMPONENT_ANALYZER_CONFIG"

end SettingName

/-- Variables of the environment. -/
abbrev Environment := List (String × String)

/-- The value that a setting has from its sources. -/
def SettingName.resolve (n : SettingName) (argument : Option Yaml.Value) (env : Environment)
    (file : Bindings) : Yaml.Value :=
  match argument with
  | some v => v
  | none =>
    match n.inEnvironment.bind fun x => env.lookup x with
    | some s => .str s
    | none => (Yaml.Value.lookup file n.key).getD n.default

/-! ## Checking values -/

/-- The text that a value is. -/
def textOfValue? : Yaml.Value → Option String
  | .str s => some s
  | .bytes bs => textOfBytes? bs
  | _ => none

/-- Check a log level, of whatever case. -/
def checkLogLevel (v : Yaml.Value) : Except ShapeFault LogLevel :=
  match textOfValue? v with
  | none => .error .notText
  | some s =>
    match LogLevel.ofName? (Text.upper s) with
    | some l => .ok l
    | none => .error (.refused ("Unknown log level: " ++ s))

/-- Check a number of components, which is at least 1. -/
def checkMaxConcurrency (v : Yaml.Value) : Except ShapeFault Int :=
  (integerOfValue v).bind fun n => if n < 1 then .error .belowOne else .ok n

/-- Check the form of a report. -/
def checkOutputFormat (v : Yaml.Value) : Except ShapeFault OutputFormat :=
  match v with
  | .str s =>
    match OutputFormat.ofName? s with
    | some f => .ok f
    | none => .error .notOutputFormat
  | _ => .error .notOutputFormat

/-- Check a single value under a key. -/
def Checked.ofExcept {α : Type} (key : String) : Except ShapeFault α → Checked α
  | .ok a => .ok a
  | .error f => .fault f [.key key]

/-- Check the items of a list of names, from an index on. -/
def checkNames (key : String) (i : Nat) : List Yaml.Value → Checked (List String)
  | [] => .ok []
  | v :: rest =>
    let item : Checked String := match textOfValue? v with
      | some s => .ok s
      | none => .fault .notText [.key key, .index i]
    (· :: ·) <$> item <*> checkNames key (i + 1) rest

/-- Check a list of names. -/
def checkNameList (key : String) : Yaml.Value → Checked (List String)
  | .seq items => checkNames key 0 items
  | .set items => checkNames key 0 items
  | .pairs items => checkNames key 0 (items.map fun p => .seq [p.1, p.2])
  | _ => .fault .notList [.key key]

/-! ## Loading -/

/-- Settings given as arguments. -/
structure Arguments where
  configFile : Option String := none
  logLevel : Option Yaml.Value := none
  maxConcurrency : Option Yaml.Value := none
  outputFormat : Option Yaml.Value := none

/-- The settings from arguments, environment and the bindings of a file. -/
def Settings.resolve (args : Arguments) (env : Environment) (file : Bindings) :
    Checked Settings :=
  Settings.mk
    <$> .ofExcept SettingName.logLevel.key
          (checkLogLevel (SettingName.logLevel.resolve args.logLevel env file))
    <*> .ofExcept SettingName.maxConcurrency.key
          (checkMaxConcurrency (SettingName.maxConcurrency.resolve args.maxConcurrency env file))
    <*> .ofExcept SettingName.outputFormat.key
          (checkOutputFormat (SettingName.outputFormat.resolve args.outputFormat env file))
    <*> checkNameList SettingName.ignoreDirs.key
          (SettingName.ignoreDirs.resolve none env file)

/-- The name of the settings file, if there is one; an empty name is none. -/
def configFile? (args : Arguments) (env : Environment) : Option String :=
  match args.configFile.filter (· != "") with
  | some file => some file
  | none => (env.lookup SettingName.configVariable).filter (· != "")

/-- The bindings of the settings file, of which there are none without a
file. -/
def Settings.bindings (t : FileTree) (base : Path) (env : Environment) (args : Arguments)
    (readYaml : YamlReader := (Yaml.load ·)) : Except SettingsFailure Bindings :=
  match configFile? args env with
  | some file => loadSettingsFile t base file readYaml
  | none => .ok []

/-- The settings can be written down: the number has not too many digits. -/
def Settings.isShowable (s : Settings) : Bool :=
  (Json.Value.int s.maxConcurrency).isShowable

/-- Load the settings. -/
def Settings.load (t : FileTree) (base : Path) (env : Environment) (args : Arguments)
    (readYaml : YamlReader := (Yaml.load ·)) : Except SettingsFailure Settings := do
  let file ← Settings.bindings t base env args readYaml
  match Settings.resolve args env file with
  | .ok s => if s.isShowable then .ok s else .error (.value .unwritable)
  | .faults fs => .error (.config (.invalid ⟨"AnalyzerSettings", fs⟩))

end ManifestDeps
