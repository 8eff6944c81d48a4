/-
ManifestDeps.Settings.File — the settings that a file holds.

The file is YAML in UTF-8. It holds a mapping, or nothing; settings stand
in the mapping itself or, in a file shared with other tools, in a mapping
under the key `component_analyzer`. Which value a text stands for is the
matter of a reader of YAML; `Yaml.load` is one.
-/
import ManifestDeps.Resource.Open
import ManifestDeps.Validation
import ManifestDeps.Yaml.Load

namespace ManifestDeps

/-- The bindings of settings. -/
abbrev Bindings := List (Yaml.Value × Yaml.Value)

/-- Settings that cannot be used, with the file they come from. -/
inductive ConfigError where
  | unreadable (file : String) (e : OpenError)
  | malformed (file : String)
  | notMapping (file : String)
  | sectionNotMapping (file : String)
  | invalid (r : Rejection)
  deriving Repr, DecidableEq

/-- The wording of an error. Where a library refused a text or its values, it is
the first words of what the library says. -/
def ConfigError.message : ConfigError → String
  | unreadable file e => "Cannot read settings file " ++ file ++ ": " ++ e.message
  | malformed file => "YAML parsing error in " ++ file
  | notMapping file => "Settings file " ++ file ++ " must contain a mapping"
  | sectionNotMapping file => "'component_analyzer' in " ++ file ++ " must be a mapping"
  | invalid r => "Invalid analyzer settings: " ++ r.message

/-- Why there are no settings. -/
inductive SettingsFailure where
  /-- The settings cannot be used. -/
  | config (e : ConfigError)
  /-- The name of the file holds a NUL character. -/
  | nulInPath
  /-- The file is not in UTF-8. -/
  | encoding (e : Text.DecodeError)
  /-- A value is beyond what can be built or written. -/
  | value (e : Yaml.LoadError)
  deriving Repr, DecidableEq

/-- The wording of a failure. -/
def SettingsFailure.message : SettingsFailure → String
  | config e => e.message
  | nulInPath => "embedded null byte"
  | encoding e => e.message
  | value e => e.message

/-- Line breaks of all systems as line feeds. -/
def normalizeBreaks : List Char → List Char
  | '\r' :: '\n' :: rest => '\n' :: normalizeBreaks rest
  | '\r' :: rest => '\n' :: normalizeBreaks rest
  | c :: rest => c :: normalizeBreaks rest
  | [] => []

/-- The text of a file. A sequence that the end of the file cuts off is
decoded by itself, so that its position counts from its own first byte. -/
def decodeFile (bytes : List UInt8) : Except Text.DecodeError String :=
  match Text.decodeUtf8 bytes with
  | .ok cs => .ok (String.ofList (normalizeBreaks cs))
  | .error e =>
    .error (if e.fault = .unexpectedEnd then { e with position := 0 } else e)

/-- The key of a section of a shared file. -/
def sectionKey : String := "component_analyzer"

/-- The settings in the value of a file. -/
def settingsOf (file : String) (v : Yaml.Value) : Except ConfigError Bindings :=
  if v.isSet then
    match v with
    | .map ps =>
      match Yaml.Value.lookup ps sectionKey with
      | none => .ok ps
      | some (.map qs) => .ok qs
      -- an alias under the key can make the mapping its own section
      | some .enclosing => .ok ps
      | some _ => .error (.sectionNotMapping file)
    | _ => .error (.notMapping file)
  else .ok []

/-- A reader of YAML texts. -/
abbrev YamlReader := String → Except Yaml.LoadError Yaml.Value

/-- The settings in a text. -/
def settingsOfText (file : String) (text : String) (readYaml : YamlReader := (Yaml.load ·)) :
    Except SettingsFailure Bindings :=
  match readYaml text with
  | .error .malformed => .error (.config (.malformed file))
  | .error e => .error (.value e)
  | .ok v =>
    match settingsOf file v with
    | .ok ps => .ok ps
    | .error e => .error (.config e)

/-- The settings in a file of a tree, named from a directory. -/
def loadSettingsFile (t : FileTree) (base : Path) (file : String)
    (readYaml : YamlReader := (Yaml.load ·)) : Except SettingsFailure Bindings :=
  if file.toList.contains '\x00' then .error .nulInPath
  else
    match t.openFile base file with
    | .error e => .error (.config (.unreadable file e))
    | .ok bytes =>
      match decodeFile bytes with
      | .error e => .error (.encoding e)
      | .ok text => settingsOfText file text readYaml

end ManifestDeps
