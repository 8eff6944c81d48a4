/-
ManifestDeps.Yaml.Token — the tokens of a YAML text.
-/
namespace ManifestDeps.Yaml

/-- A directive in front of a document. -/
inductive Directive where
  | version (major minor : Nat)
  | tagHandle (handle expansion : String)
  | other
  deriving Repr, DecidableEq

/-- A token. Block collections are opened and closed by tokens that take
no characters. -/
inductive Token where
  | streamEnd
  | directive (d : Directive)
  | documentStart
  | documentEnd
  | blockSequenceStart
  | blockMappingStart
  | blockEnd
  | flowSequenceStart
  | flowSequenceEnd
  | flowMappingStart
  | flowMappingEnd
  | flowEntry
  | blockEntry
  | key
  | value
  | alias (name : String)
  | anchor (name : String)
  /-- A tag: a handle, if it has one, and the rest. -/
  | tag (handle : Option String) (suffix : String)
  /-- A scalar, plain when it has neither quotes nor a block indicator. -/
  | scalar (text : String) (plain : Bool)
  deriving Repr, DecidableEq

end ManifestDeps.Yaml
