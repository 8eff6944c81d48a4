/-
ManifestDeps.Proofs.SettingsFailureTheorems — how loading the settings can
fail.

Settings that cannot be used are meant to be told as that, by a
`ConfigError`: a file that cannot be opened, is malformed, holds no mapping
or holds values that are refused. Four failures are none of these
(`SettingsFailure.Escapes`): the name of the file holds a NUL character, its
bytes are not UTF-8, reading its text stops for another reason than that it
is malformed, or the number among the settings has too many digits to be
written down. They get past everyone who expects a `ConfigError`, and end the
program as a crash (`Settings.load_of_escapes`). There are no others
(`Settings.of_load_eq_error`), whatever reads the YAML.
-/
import Mathlib.Control.Monad.Basic
import ManifestDeps.CommandLine.Run
import ManifestDeps.Proofs.EncodingTheorems
import ManifestDeps.Proofs.YamlFailureTheorems

namespace ManifestDeps

open Text (Encoding)

/-! ## §1 Reading the file -/

theorem decodeFile_eq_ok_iff {bytes : List UInt8} {text : String} :
    decodeFile bytes = .ok text ↔
      ∃ cs, bytes = Encoding.utf8.encode cs ∧ text = String.ofList (normalizeBreaks cs) := by
  simp only [← Text.decodeUtf8_eq_ok_iff]
  rw [decodeFile]
  cases Text.decodeUtf8 bytes with
  | ok cs => simp [eq_comm]
  | error e => simp

theorem exists_decodeFile_eq_error_iff {bytes : List UInt8} :
    (∃ e, decodeFile bytes = .error e) ↔ ∀ cs, bytes ≠ Encoding.utf8.encode cs := by
  have hok := @decodeFile_eq_ok_iff bytes
  cases hdecode : decodeFile bytes with
  | ok text =>
    rw [hdecode] at hok
    obtain ⟨cs, hcs, -⟩ := hok.mp rfl
    simpa using ⟨cs, hcs⟩
  | error e =>
    rw [hdecode] at hok
    refine iff_of_true ⟨e, rfl⟩ fun cs hcs => ?_
    cases hok.mpr ⟨cs, hcs, rfl⟩

section

variable {readYaml : YamlReader}

/-- A text that is not malformed, and still cannot be read. -/
theorem settingsOfText_of_error {file text : String} {e : Yaml.LoadError}
    (h : readYaml text = .error e) (hne : e ≠ .malformed) :
    settingsOfText file text readYaml = .error (.value e) := by
  rw [settingsOfText, h]
  cases e with
  | malformed => exact absurd rfl hne
  | _ => rfl

/-- The only other failures are told. -/
theorem of_settingsOfText_eq_error {file text : String} {f : SettingsFailure}
    (h : settingsOfText file text readYaml = .error f) :
    (∃ e, f = .config e) ∨ ∃ e, f = .value e ∧ readYaml text = .error e ∧ e ≠ .malformed := by
  rw [settingsOfText] at h
  split at h
  · exact .inl ⟨_, (Except.error.inj h).symm⟩
  · rename_i e hne hload
    exact .inr ⟨e, (Except.error.inj h).symm, hload, hne⟩
  · split at h
    · cases h
    · exact .inl ⟨_, (Except.error.inj h).symm⟩

end

/-! ## §2 Failures that are not told -/

section

variable (t : FileTree) (base : Path) (env : Environment) (args : Arguments)
  (readYaml : YamlReader)

/-- The settings file has this name and this content. -/
structure ReadsSettings (file : String) (bytes : List UInt8) : Prop where
  chosen : configFile? args env = some file
  noNul : '\x00' ∉ file.toList
  opened : t.openFile base file = .ok bytes

/-- A failure gets past those who expect a `ConfigError`. -/
inductive SettingsFailure.Escapes : SettingsFailure → Prop where
  | nulInPath {file : String} : configFile? args env = some file → '\x00' ∈ file.toList →
      Escapes .nulInPath
  | encoding {file : String} {bytes : List UInt8} {e : Text.DecodeError} :
      ReadsSettings t base env args file bytes → (∀ cs, bytes ≠ Encoding.utf8.encode cs) →
      decodeFile bytes = .error e → Escapes (.encoding e)
  | value {file : String} {cs : List Char} {e : Yaml.LoadError} :
      ReadsSettings t base env args file (Encoding.utf8.encode cs) →
      readYaml (String.ofList (normalizeBreaks cs)) = .error e → e ≠ .malformed →
      Escapes (.value e)
  | unwritable {b : Bindings} {settings : Settings} :
      Settings.bindings t base env args readYaml = .ok b →
      Settings.resolve args env b = .ok settings → settings.isShowable = false →
      Escapes (.value .unwritable)

end

section

variable {t : FileTree} {base : Path} {env : Environment} {args : Arguments}
  {readYaml : YamlReader} {file : String} {f : SettingsFailure}

theorem loadSettingsFile_of_nul (h : '\x00' ∈ file.toList) :
    loadSettingsFile t base file readYaml = .error .nulInPath := by
  rw [loadSettingsFile, if_pos (List.contains_iff_mem.mpr h)]

theorem loadSettingsFile_of_noNul (h : '\x00' ∉ file.toList) :
    loadSettingsFile t base file readYaml =
      match t.openFile base file with
      | .error e => .error (.config (.unreadable file e))
      | .ok bytes =>
        match decodeFile bytes with
        | .error e => .error (.encoding e)
        | .ok text => settingsOfText file text readYaml := by
  unfold loadSettingsFile
  exact if_neg fun hc => h (List.contains_iff_mem.mp hc)

theorem ReadsSettings.loadSettingsFile_eq {bytes : List UInt8}
    (h : ReadsSettings t base env args file bytes) :
    loadSettingsFile t base file readYaml =
      match decodeFile bytes with
      | .error e => .error (.encoding e)
      | .ok text => settingsOfText file text readYaml := by
  rw [loadSettingsFile_of_noNul h.noNul, h.opened]

/-- A file that is not loaded is not loaded for one of the first three reasons,
or this is told. -/
theorem of_loadSettingsFile_eq_error (hchosen : configFile? args env = some file)
    (h : loadSettingsFile t base file readYaml = .error f) :
    (∃ e, f = .config e) ∨ f.Escapes t base env args readYaml := by
  by_cases hnul : '\x00' ∈ file.toList
  · rw [loadSettingsFile_of_nul hnul] at h
    cases h
    exact .inr (.nulInPath hchosen hnul)
  cases hopen : t.openFile base file with
  | error e =>
    rw [loadSettingsFile_of_noNul hnul, hopen] at h
    exact .inl ⟨_, (Except.error.inj h).symm⟩
  | ok bytes =>
    have hreads : ReadsSettings t base env args file bytes := ⟨hchosen, hnul, hopen⟩
    rw [hreads.loadSettingsFile_eq] at h
    cases hdecode : decodeFile bytes with
    | error e =>
      rw [hdecode] at h
      cases h
      exact .inr (.encoding hreads (exists_decodeFile_eq_error_iff.mp ⟨e, hdecode⟩) hdecode)
    | ok text =>
      rw [hdecode] at h
      obtain ⟨cs, rfl, rfl⟩ := decodeFile_eq_ok_iff.mp hdecode
      refine (of_settingsOfText_eq_error h).imp_right ?_
      rintro ⟨e, rfl, hload, hne⟩
      exact .value hreads hload hne

namespace Settings

theorem bindings_of_chosen (hchosen : configFile? args env = some file) :
    bindings t base env args readYaml = loadSettingsFile t base file readYaml := by
  rw [bindings, hchosen]

/-- What becomes of bindings. -/
theorem load_eq_bind :
    load t base env args readYaml =
      (bindings t base env args readYaml).bind fun b =>
        match resolve args env b with
        | .ok s => if s.isShowable then .ok s else .error (.value .unwritable)
        | .faults fs => .error (.config (.invalid ⟨"AnalyzerSettings", fs⟩)) :=
  rfl

theorem load_of_bindings_error (h : bindings t base env args readYaml = .error f) :
    load t base env args readYaml = .error f := by
  rw [load_eq_bind, h]
  rfl

theorem load_of_escapes (h : f.Escapes t base env args readYaml) :
    load t base env args readYaml = .error f := by
  cases h with
  | nulInPath hchosen hnul =>
    refine load_of_bindings_error ?_
    rw [bindings_of_chosen hchosen, loadSettingsFile_of_nul hnul]
  | encoding hreads _ hdecode =>
    refine load_of_bindings_error ?_
    rw [bindings_of_chosen hreads.chosen, hreads.loadSettingsFile_eq, hdecode]
  | value hreads hload hne =>
    refine load_of_bindings_error ?_
    rw [bindings_of_chosen hreads.chosen, hreads.loadSettingsFile_eq,
      decodeFile_eq_ok_iff.mpr ⟨_, rfl, rfl⟩]
    exact settingsOfText_of_error hload hne
  | unwritable hbindings hresolve hshow =>
    rw [load_eq_bind, hbindings, Except.bind, hresolve]
    simp only [hshow, Bool.false_eq_true, if_false]

/-- **Whatever else goes wrong is told.** -/
theorem of_load_eq_error (h : load t base env args readYaml = .error f) :
    (∃ e, f = .config e) ∨ f.Escapes t base env args readYaml := by
  cases hbindings : bindings t base env args readYaml with
  | error e =>
    rw [load_of_bindings_error hbindings] at h
    cases h
    cases hchosen : configFile? args env with
    | none => rw [bindings, hchosen] at hbindings; cases hbindings
    | some file =>
      rw [bindings_of_chosen hchosen] at hbindings
      exact of_loadSettingsFile_eq_error hchosen hbindings
  | ok b =>
    rw [load_eq_bind, hbindings, Except.bind] at h
    cases hresolve : resolve args env b with
    | faults fs =>
      rw [hresolve] at h
      exact .inl ⟨_, (Except.error.inj h).symm⟩
    | ok settings =>
      rw [hresolve] at h
      cases hshow : settings.isShowable with
      | true => simp [hshow] at h
      | false =>
        simp only [hshow, Bool.false_eq_true, if_false, Except.error.injEq] at h
        exact .inr (h ▸ .unwritable hbindings hresolve hshow)

end Settings

/-! ## §3 The command line -/

namespace CommandLine

variable {s : Surroundings} {job : Job} {libraries : Libraries}

/-- Settings that are not accepted end a run with nothing printed. It ends with
the reason told if this is shown. -/
theorem close_refused (shown : Markup.Reader) (e : ConfigError) (message : String) :
    let run := Run.close shown { ending := .refused e } message
    run.ending.exitCode = 1 ∧ run.out = "" ∧
      (run.ending = .refused e ↔ ∃ cs, shown message.toList = .ok cs) := by
  simp only [Run.close, shownMessage]
  cases shown message.toList with
  | error error => exact ⟨rfl, rfl, iff_of_false (by simp [Except.map]) (by simp)⟩
  | ok cs => exact ⟨rfl, rfl, iff_of_true rfl ⟨cs, rfl⟩⟩

theorem Job.run_of_ok {settings : Settings}
    (h : Settings.load s.tree s.directory s.environment job.arguments libraries.readYaml =
      .ok settings) : job.run s libraries = job.runWith s settings libraries := by
  rw [Job.run, h]

theorem Job.run_of_config {e : ConfigError}
    (h : Settings.load s.tree s.directory s.environment job.arguments libraries.readYaml =
      .error (.config e)) :
    job.run s libraries =
      .close libraries.shown { ending := .refused e } (refusalText libraries e) := by
  rw [Job.run, h]

theorem Job.run_of_escapes {f : SettingsFailure}
    (h : f.Escapes s.tree s.directory s.environment job.arguments libraries.readYaml) :
    job.run s libraries = { ending := .crashed (.settings f) } := by
  rw [Job.run, Settings.load_of_escapes h]
  cases h <;> rfl

end CommandLine

end

end ManifestDeps
