/-
ManifestDeps.Libraries — what the program leaves to libraries.

A library reads the YAML of a settings file, another one shows texts with
markup on a terminal, and a third one says at length why it refused a
manifest or settings, of which reports and messages here have the first
words only. The defaults read YAML and markup as they are commonly read and
have nothing to add.
-/
import ManifestDeps.Diagnostic.Basic
import ManifestDeps.Markup.Basic
import ManifestDeps.Settings.File

namespace ManifestDeps

/-- The parts of libraries that the program uses. -/
structure Libraries where
  readYaml : YamlReader := (Yaml.load ·)
  shown : Markup.Reader := Markup.plain
  /-- What follows on the message of a report. -/
  behindMessage : Diagnostic → String := fun _ => ""
  /-- What follows on the wording of an error. -/
  behindError : ConfigError → String := fun _ => ""

end ManifestDeps
