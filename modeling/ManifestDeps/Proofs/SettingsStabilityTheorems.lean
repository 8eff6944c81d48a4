/-
ManifestDeps.Proofs.SettingsStabilityTheorems — settings that are given back
stay what they are.

Settings are written in many ways: a log level in any case, a number as a
text, a float or a switch, from four kinds of sources. What is loaded from
them is valid, and its plain spelling is one of the ways to write it. So an
argument may be replaced by any value that stands for the setting that was
loaded (`SettingsSources.Restates`), and loading gives the same settings
again (`SettingsSources.load_of_restates`). In particular this is so when the
loaded settings are all given as arguments (`Settings.toArguments`).
-/
import ManifestDeps.Proofs.SettingsSourceTheorems

namespace ManifestDeps

/-! ## §1 Plain spellings -/

/-- The name of a level is in capitals already. -/
theorem givesLogLevel_name (l : LogLevel) : GivesLogLevel (.str l.name) l := by
  refine ⟨l.name, rfl, ?_⟩
  cases l <;> decide +kernel

theorem givesMaxConcurrency_int {n : Int} (h : 1 ≤ n) : GivesMaxConcurrency (.int n) n :=
  ⟨rfl, h⟩

theorem givesOutputFormat_name (f : OutputFormat) : GivesOutputFormat (.str f.name) f := rfl

/-- Settings as arguments, with a settings file beside them perhaps. -/
def Settings.toArguments (settings : Settings) (configFile : Option String) : Arguments where
  configFile := configFile
  logLevel := some (.str settings.logLevel.name)
  maxConcurrency := some (.int settings.maxConcurrency)
  outputFormat := some (.str settings.outputFormat.name)

/-! ## §2 Arguments given anew -/

/-- An argument stays, or is replaced by a value that stands for this. -/
def RestatedAs {α : Type} (Gives : Yaml.Value → α → Prop) (a : α)
    (old new : Option Yaml.Value) : Prop :=
  new = old ∨ ∃ v, new = some v ∧ Gives v a

namespace SettingsSources

variable {s : SettingsSources} {settings : Settings} {args : Arguments} {b : Bindings}

/-- The arguments are those of the sources, some of them given anew as what was
loaded. -/
structure Restates (s : SettingsSources) (settings : Settings) (args : Arguments) : Prop where
  configFile : args.configFile = s.arguments.configFile
  logLevel : RestatedAs GivesLogLevel settings.logLevel s.arguments.logLevel args.logLevel
  maxConcurrency : RestatedAs GivesMaxConcurrency settings.maxConcurrency
    s.arguments.maxConcurrency args.maxConcurrency
  outputFormat : RestatedAs GivesOutputFormat settings.outputFormat s.arguments.outputFormat
    args.outputFormat

/-- What decided a setting still does, or an argument with the same meaning. -/
theorem Decides.of_restatedAs {α : Type} {n : SettingName} {old new : Option Yaml.Value}
    {Gives : Yaml.Value → α → Prop} {a : α} (h : s.Decides b n old Gives a)
    (hnew : RestatedAs Gives a old new) :
    Decides { s with arguments := args } b n new Gives a := by
  rcases hnew with rfl | ⟨v, rfl, hv⟩
  · exact h
  · exact ⟨v, .argument rfl, hv⟩

/-- The settings file stays with its name. -/
theorem Offers.of_configFile (h : s.Offers b) (hfile : args.configFile = s.arguments.configFile) :
    Offers { s with arguments := args } b := by
  rw [← bindings_eq_ok_iff] at h ⊢
  have hfile : configFile? args s.environment = configFile? s.arguments s.environment := by
    rw [configFile?, configFile?, hfile]
  rw [← h, bindings, bindings, Settings.bindings, Settings.bindings, hfile]

/-- What was loaded was loaded from bindings that count, and can be written
down. -/
theorem exists_offers_of_load (h : s.load = .ok settings) :
    ∃ b, s.Offers b ∧ s.Determines b settings ∧
      settings.maxConcurrency < Json.leastUnwritable := by
  cases hb : s.bindings with
  | error f =>
    rw [load_eq_bind, hb] at h
    cases h
  | ok b =>
    have hoffers := bindings_eq_ok_iff.mp hb
    exact ⟨b, hoffers, (load_eq_ok_iff hoffers).mp h⟩

/-- **Arguments given anew change nothing.** -/
theorem load_of_restates (h : s.load = .ok settings) (hargs : s.Restates settings args) :
    load { s with arguments := args } = .ok settings := by
  obtain ⟨b, hoffers, ⟨hlevel, hnumber, hformat, hdirs⟩, hdigits⟩ := exists_offers_of_load h
  refine (load_eq_ok_iff (hoffers.of_configFile hargs.configFile)).mpr
    ⟨⟨?_, ?_, ?_, ?_⟩, hdigits⟩
  · exact hlevel.of_restatedAs hargs.logLevel
  · exact hnumber.of_restatedAs hargs.maxConcurrency
  · exact hformat.of_restatedAs hargs.outputFormat
  · exact hdirs

/-- The loaded settings as arguments. -/
theorem restates_toArguments (h : s.load = .ok settings) :
    s.Restates settings (settings.toArguments s.arguments.configFile) := by
  obtain ⟨b, -, hdetermines, -⟩ := exists_offers_of_load h
  obtain ⟨v, -, hnumber⟩ := hdetermines.maxConcurrency
  exact
    { configFile := rfl
      logLevel := .inr ⟨_, rfl, givesLogLevel_name _⟩
      maxConcurrency := .inr ⟨_, rfl, givesMaxConcurrency_int hnumber.2⟩
      outputFormat := .inr ⟨_, rfl, givesOutputFormat_name _⟩ }

end SettingsSources

/-- **Loaded settings are valid and stay what they are.** Each setting is what
the value that decides it stands for, from whichever source and however it is
written: the log level is one of five names, the text of that value in
capitals; the number of components is at least one; the form of the report is
one of three names. The loaded settings, given as arguments next to the same
file and environment, are loaded as they are. So they are when any of the
arguments are given anew, by any values that stand for what was loaded. -/
theorem SettingsSources.load_is_valid_and_stays {s : SettingsSources} {settings : Settings}
    (h : s.load = .ok settings) :
    (∃ b, s.Offers b ∧ s.Determines b settings ∧
      ∃ v text, SettingName.logLevel.Selected s.arguments.logLevel s.environment b v ∧
        textOfValue? v = some text ∧ settings.logLevel.name = Text.upper text) ∧
    settings.logLevel.name ∈ ["CRITICAL", "ERROR", "WARNING", "INFO", "DEBUG"] ∧
    1 ≤ settings.maxConcurrency ∧
    settings.outputFormat.name ∈ ["table", "json", "yaml"] ∧
    load { s with arguments := settings.toArguments s.arguments.configFile } = .ok settings ∧
    ∀ args, s.Restates settings args → load { s with arguments := args } = .ok settings := by
  obtain ⟨b, hoffers, hdetermines, -⟩ := exists_offers_of_load h
  obtain ⟨v, hselected, text, htext, hupper⟩ := hdetermines.logLevel
  obtain ⟨-, -, -, hpositive⟩ := hdetermines.maxConcurrency
  refine ⟨⟨b, hoffers, hdetermines, v, text, hselected, htext, hupper.symm⟩, ?_, hpositive, ?_,
    load_of_restates h (restates_toArguments h), fun args hargs => load_of_restates h hargs⟩
  · cases settings.logLevel <;> decide
  · cases settings.outputFormat <;> decide

/-- A level from a file and a number from a variable, neither in its plain
spelling. -/
theorem SettingsSources.load_is_valid_and_stays_of_spellings :
    let s : SettingsSources :=
      { tree := .directory [("conf.yaml", .file (Text.encodeUtf8 "log_level: Debug"))]
        directory := []
        environment := [("COMPONENT_ANALYZER_MAX_CONCURRENCY", "5.00")]
        arguments := { configFile := some "conf.yaml" } }
    let settings : Settings := ⟨.debug, 5, .table, defaultIgnoreDirs⟩
    s.load = .ok settings ∧
      load { s with arguments := settings.toArguments (some "conf.yaml") } = .ok settings := by
  intro s settings
  have hload : s.load = .ok settings := by decide +kernel
  obtain ⟨-, -, -, -, hstays, -⟩ := load_is_valid_and_stays hload
  exact ⟨hload, hstays⟩

end ManifestDeps
