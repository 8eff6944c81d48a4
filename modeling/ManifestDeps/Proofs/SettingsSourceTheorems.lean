/-
ManifestDeps.Proofs.SettingsSourceTheorems — which source decides a setting.

A setting may be given as an argument, by a variable of the environment, in
the settings file, or not at all. The first of these that gives it decides
it (`SettingName.Selected`), whether or not what it gives is valid, and
nothing that stands behind has any effect. Of the file, it is the section
for this program that counts, if it has one (`SectionOf`). Settings are loaded
only when the four values that are selected are valid, each for itself. They
are then written down, which a number of components with too many digits
cannot be, and loading fails for such a number although it is valid
(`SettingsSources.load_eq_ok_iff`, `SettingsSources.load_eq_unwritable`).

What is hidden behind others may be changed. `HiddenChange` lists the
changes: of variables, of other files, of keys in the settings file, of all
that stands beside a section for this program in a shared file. A change
keeps the outcome, of whatever kind it is, and so do any number of them one
after the other (`SettingsSources.load_eq_of_hiddenChanges`).
-/
import Mathlib.Logic.Relation
import ManifestDeps.Proofs.SettingsFailureTheorems

namespace ManifestDeps

/-! ## §1 Valid values -/

/-- The items of a value that can be read as a list. -/
def Yaml.Value.items? : Yaml.Value → Option (List Yaml.Value)
  | .seq items => some items
  | .set items => some items
  | .pairs items => some (items.map fun p => .seq [p.1, p.2])
  | _ => none

/-- A value stands for a log level: it is its name, in whatever case. -/
def GivesLogLevel (v : Yaml.Value) (l : LogLevel) : Prop :=
  ∃ text, textOfValue? v = some text ∧ Text.upper text = l.name

/-- A value stands for a number of components. -/
def GivesMaxConcurrency (v : Yaml.Value) (n : Int) : Prop :=
  integerOfValue v = .ok n ∧ 1 ≤ n

/-- A value stands for the form of a report: it is its name. -/
def GivesOutputFormat (v : Yaml.Value) (f : OutputFormat) : Prop :=
  v = .str f.name

/-- A value stands for names: it is a list of them. -/
def GivesNames (v : Yaml.Value) (names : List String) : Prop :=
  ∃ items, v.items? = some items ∧ items.map textOfValue? = names.map some

theorem LogLevel.ofName?_eq_some_iff {s : String} {l : LogLevel} :
    ofName? s = some l ↔ s = l.name := by
  constructor
  · intro h
    unfold ofName? at h
    have hname := List.find?_some h
    exact (beq_iff_eq.mp hname).symm
  · rintro rfl
    cases l <;> decide

theorem OutputFormat.ofName?_eq_some_iff {s : String} {f : OutputFormat} :
    ofName? s = some f ↔ s = f.name := by
  constructor
  · intro h
    unfold ofName? at h
    have hname := List.find?_some h
    exact (beq_iff_eq.mp hname).symm
  · rintro rfl
    cases f <;> decide

theorem checkLogLevel_eq_ok_iff {v : Yaml.Value} {l : LogLevel} :
    checkLogLevel v = .ok l ↔ GivesLogLevel v l := by
  rw [checkLogLevel, GivesLogLevel]
  cases textOfValue? v with
  | none => simp
  | some text =>
    simp only [Option.some.injEq, exists_eq_left', ← LogLevel.ofName?_eq_some_iff]
    cases LogLevel.ofName? (Text.upper text) <;> simp

theorem checkMaxConcurrency_eq_ok_iff {v : Yaml.Value} {n : Int} :
    checkMaxConcurrency v = .ok n ↔ GivesMaxConcurrency v n := by
  rw [checkMaxConcurrency, GivesMaxConcurrency]
  cases integerOfValue v with
  | error e => simp [Except.bind]
  | ok m =>
    simp only [Except.bind, Except.ok.injEq]
    split
    · simp
      omega
    · simp
      omega

theorem checkOutputFormat_eq_ok_iff {v : Yaml.Value} {f : OutputFormat} :
    checkOutputFormat v = .ok f ↔ GivesOutputFormat v f := by
  unfold checkOutputFormat GivesOutputFormat
  split
  · rename_i s
    rw [Yaml.Value.str.injEq, ← OutputFormat.ofName?_eq_some_iff]
    cases OutputFormat.ofName? s <;> simp
  · rename_i hv
    exact iff_of_false (by simp) (hv f.name)

theorem checkNames_eq_ok_iff {key : String} {i : Nat} {items : List Yaml.Value}
    {names : List String} :
    checkNames key i items = .ok names ↔ items.map textOfValue? = names.map some := by
  induction items generalizing i names with
  | nil => cases names <;> simp [checkNames]
  | cons v rest ih =>
    rw [checkNames, List.map_cons]
    cases textOfValue? v with
    | none =>
      refine iff_of_false ?_ ?_
      · cases checkNames key (i + 1) rest <;> simp [Checked.fault]
      · cases names <;> simp
    | some s =>
      cases names with
      | nil => cases hrest : checkNames key (i + 1) rest <;> simp
      | cons name names =>
        rw [List.map_cons, List.cons.injEq, ← ih (i := i + 1)]
        cases checkNames key (i + 1) rest <;> simp

theorem checkNameList_eq_ok_iff {key : String} {v : Yaml.Value} {names : List String} :
    checkNameList key v = .ok names ↔ GivesNames v names := by
  unfold checkNameList GivesNames
  split
  · simp [Yaml.Value.items?, checkNames_eq_ok_iff]
  · simp [Yaml.Value.items?, checkNames_eq_ok_iff]
  · simp [Yaml.Value.items?, checkNames_eq_ok_iff]
  · rename_i hseq hset hpairs
    have hnone : v.items? = none := by
      cases v with
      | seq items => exact absurd rfl (hseq items)
      | set items => exact absurd rfl (hset items)
      | pairs items => exact absurd rfl (hpairs items)
      | _ => rfl
    simp [hnone, Checked.fault]

theorem Checked.ofExcept_eq_ok_iff {α : Type} {key : String} {x : Except ShapeFault α} {a : α} :
    Checked.ofExcept key x = .ok a ↔ x = .ok a := by
  cases x <;> simp [Checked.ofExcept, Checked.fault]

/-! ## §2 The source that decides -/

namespace SettingName

variable {n : SettingName} {argument : Option Yaml.Value} {env env' : Environment}
  {file file' : Bindings}

/-- The variable of a setting is set. -/
def IsInEnvironment (n : SettingName) (env : Environment) : Prop :=
  ∃ x ∈ n.inEnvironment, (env.lookup x).isSome

/-- The value that is selected for a setting: that of the first source that
gives it. -/
inductive Selected (n : SettingName) (argument : Option Yaml.Value) (env : Environment)
    (file : Bindings) : Yaml.Value → Prop where
  | argument {v : Yaml.Value} : argument = some v → Selected n argument env file v
  | environment {x s : String} : argument = none → n.inEnvironment = some x →
      env.lookup x = some s → Selected n argument env file (.str s)
  | file {v : Yaml.Value} : argument = none → ¬ n.IsInEnvironment env →
      Yaml.Value.lookup file n.key = some v → Selected n argument env file v
  | default : argument = none → ¬ n.IsInEnvironment env →
      Yaml.Value.lookup file n.key = none → Selected n argument env file n.default

theorem bind_lookup_eq_none_iff :
    (n.inEnvironment.bind fun x => env.lookup x) = none ↔ ¬ n.IsInEnvironment env := by
  constructor
  · rintro h ⟨x, hx, hset⟩
    rw [Option.mem_def.mp hx, Option.bind_some] at h
    rw [h] at hset
    cases hset
  · intro h
    cases hx : n.inEnvironment with
    | none => rfl
    | some x =>
      rw [Option.bind_some]
      exact Option.not_isSome_iff_eq_none.mp fun hset => h ⟨x, hx, hset⟩

theorem selected_resolve (n : SettingName) (argument : Option Yaml.Value) (env : Environment)
    (file : Bindings) : n.Selected argument env file (n.resolve argument env file) := by
  unfold resolve
  split
  · rename_i v
    exact .argument rfl
  · split
    · rename_i s hs
      obtain ⟨x, hx, hlookup⟩ := Option.bind_eq_some_iff.mp hs
      exact .environment rfl hx hlookup
    · rename_i hnone
      have hunset := bind_lookup_eq_none_iff.mp hnone
      cases hlookup : Yaml.Value.lookup file n.key with
      | some v => exact .file rfl hunset hlookup
      | none => exact .default rfl hunset hlookup

/-- The value is the one that loading goes on with. -/
theorem selected_iff {v : Yaml.Value} :
    n.Selected argument env file v ↔ n.resolve argument env file = v := by
  constructor
  · intro h
    unfold resolve
    cases h with
    | argument h => rw [h]
    | environment h hx hs => rw [h, hx, Option.bind_some, hs]
    | file h hunset hv =>
      rw [h, bind_lookup_eq_none_iff.mpr hunset, hv]
      rfl
    | default h hunset hv =>
      rw [h, bind_lookup_eq_none_iff.mpr hunset, hv]
      rfl
  · rintro rfl
    exact selected_resolve n argument env file

/-- The key of a setting does not count in a file. -/
def IsHidden (n : SettingName) (argument : Option Yaml.Value) (env : Environment) : Prop :=
  argument ≠ none ∨ n.IsInEnvironment env

/-- **What does not count may be anything.** -/
theorem resolve_congr
    (henv : argument = none → ∀ x ∈ n.inEnvironment, env'.lookup x = env.lookup x)
    (hfile : ¬ n.IsHidden argument env →
      Yaml.Value.lookup file' n.key = Yaml.Value.lookup file n.key) :
    n.resolve argument env' file' = n.resolve argument env file := by
  unfold resolve
  cases argument with
  | some v => rfl
  | none =>
    have hbind : (n.inEnvironment.bind fun x => env'.lookup x) =
        n.inEnvironment.bind fun x => env.lookup x := by
      cases hx : n.inEnvironment with
      | none => rfl
      | some x => exact henv rfl x hx
    dsimp only
    rw [hbind]
    cases hlookup : n.inEnvironment.bind fun x => env.lookup x with
    | some s => rfl
    | none =>
      have hshown : ¬ n.IsHidden none env := fun h =>
        h.elim (· rfl) (bind_lookup_eq_none_iff.mp hlookup)
      dsimp only
      rw [hfile hshown]

end SettingName

/-! ## §3 The section that counts -/

/-- The bindings that count of what a settings file stands for. -/
inductive SectionOf : Yaml.Value → Bindings → Prop where
  /-- An empty file, or one that stands for nothing. -/
  | nothing {v : Yaml.Value} : v.isSet = false → SectionOf v []
  | whole {ps : Bindings} : Yaml.Value.lookup ps sectionKey = none → SectionOf (.map ps) ps
  /-- The section for this program. -/
  | part {ps qs : Bindings} : Yaml.Value.lookup ps sectionKey = some (.map qs) →
      SectionOf (.map ps) qs
  /-- A section that is the mapping it stands in. -/
  | itself {ps : Bindings} : Yaml.Value.lookup ps sectionKey = some .enclosing →
      SectionOf (.map ps) ps

section

variable {file text : String} {v : Yaml.Value} {b : Bindings}

theorem isSet_map_iff {ps : Bindings} : (Yaml.Value.map ps).isSet = true ↔ ps ≠ [] := by
  cases ps <;> simp [Yaml.Value.isSet]

theorem ne_nil_of_lookup {ps : Bindings} {name : String}
    (h : Yaml.Value.lookup ps name = some v) : ps ≠ [] := by
  rintro rfl
  cases h

theorem settingsOf_eq_ok_iff : settingsOf file v = .ok b ↔ SectionOf v b := by
  unfold settingsOf
  constructor
  · intro h
    split at h
    · split at h
      · split at h
        · cases h
          exact .whole ‹_›
        · cases h
          exact .part ‹_›
        · cases h
          exact .itself ‹_›
        · cases h
      · cases h
    · cases h
      exact .nothing (Bool.eq_false_iff.mpr ‹_›)
  · intro h
    cases h with
    | nothing h => rw [if_neg (Bool.eq_false_iff.mp h)]
    | whole h =>
      cases b with
      | nil => rfl
      | cons p ps =>
        rw [if_pos (isSet_map_iff.mpr (List.cons_ne_nil p ps))]
        simp only [h]
    | part h | itself h =>
      rw [if_pos (isSet_map_iff.mpr (ne_nil_of_lookup h))]
      simp only [h]

theorem settingsOfText_eq_ok_iff {readYaml : YamlReader} :
    settingsOfText file text readYaml = .ok b ↔ ∃ v, readYaml text = .ok v ∧ SectionOf v b := by
  simp only [← @settingsOf_eq_ok_iff file]
  rw [settingsOfText]
  cases readYaml text with
  | error e => cases e <;> simp
  | ok v =>
    simp only [Except.ok.injEq, exists_eq_left']
    cases settingsOf file v <;> simp

end

/-! ## §4 Loading from sources -/

/-- The settings, each with the argument that may give it. -/
def Arguments.given (args : Arguments) : List (SettingName × Option Yaml.Value) :=
  [(.logLevel, args.logLevel), (.maxConcurrency, args.maxConcurrency),
    (.outputFormat, args.outputFormat), (.ignoreDirs, none)]

/-- A setting that has the same value from other sources counts as before. -/
theorem Settings.resolve_congr {args : Arguments} {env env' : Environment} {b b' : Bindings}
    (h : ∀ p ∈ args.given, p.1.resolve p.2 env' b' = p.1.resolve p.2 env b) :
    resolve args env' b' = resolve args env b := by
  simp only [Arguments.given, List.forall_mem_cons, List.not_mem_nil, false_imp_iff,
    implies_true, and_true] at h
  obtain ⟨hl, hn, hf, hi⟩ := h
  rw [resolve, resolve, hl, hn, hf, hi]

/-- All that settings are loaded from. -/
structure SettingsSources where
  tree : FileTree
  directory : Path
  environment : Environment
  arguments : Arguments
  readYaml : YamlReader := (Yaml.load ·)

namespace SettingsSources

/-- Load the settings. -/
def load (s : SettingsSources) : Except SettingsFailure Settings :=
  Settings.load s.tree s.directory s.environment s.arguments s.readYaml

/-- The settings file, if there is one. -/
def file? (s : SettingsSources) : Option String :=
  configFile? s.arguments s.environment

/-- The bindings of the settings file, of which there are none without a file. -/
def bindings (s : SettingsSources) : Except SettingsFailure Bindings :=
  Settings.bindings s.tree s.directory s.environment s.arguments s.readYaml

variable {s s' : SettingsSources} {b b' : Bindings} {settings : Settings}

/-- The settings file has this name, and its text stands for this value. -/
def Holds (s : SettingsSources) (file : String) (v : Yaml.Value) : Prop :=
  ∃ bytes text, ReadsSettings s.tree s.directory s.environment s.arguments file bytes ∧
    decodeFile bytes = .ok text ∧ s.readYaml text = .ok v

/-- The settings file can be loaded and has these bindings that count, or
there is none. -/
inductive Offers (s : SettingsSources) : Bindings → Prop where
  | noFile : s.file? = none → Offers s []
  | file {file : String} {v : Yaml.Value} {b : Bindings} : s.Holds file v → SectionOf v b →
      Offers s b

theorem bindings_eq_ok_iff : s.bindings = .ok b ↔ s.Offers b := by
  rw [bindings, Settings.bindings]
  constructor
  · intro h
    split at h
    · rename_i file hfile
      by_cases hnul : '\x00' ∈ file.toList
      · rw [loadSettingsFile_of_nul hnul] at h
        cases h
      rw [loadSettingsFile_of_noNul hnul] at h
      split at h
      · cases h
      rename_i bytes hopen
      split at h
      · cases h
      rename_i text hdecode
      obtain ⟨v, hload, hsection⟩ := settingsOfText_eq_ok_iff.mp h
      exact .file ⟨bytes, text, ⟨hfile, hnul, hopen⟩, hdecode, hload⟩ hsection
    · cases h
      exact .noFile ‹_›
  · intro h
    cases h with
    | noFile h => rw [show configFile? s.arguments s.environment = none from h]
    | file h hsection =>
      obtain ⟨bytes, text, hreads, hdecode, hload⟩ := h
      rw [hreads.chosen]
      simp only [hreads.loadSettingsFile_eq, hdecode]
      exact settingsOfText_eq_ok_iff.mpr ⟨_, hload, hsection⟩

theorem load_eq_bind (s : SettingsSources) :
    s.load = s.bindings.bind fun b =>
      match Settings.resolve s.arguments s.environment b with
      | .ok settings => if settings.isShowable then .ok settings else .error (.value .unwritable)
      | .faults fs => .error (.config (.invalid ⟨"AnalyzerSettings", fs⟩)) :=
  Settings.load_eq_bind

/-- The selected value of a setting stands for this. -/
def Decides {α : Type} (s : SettingsSources) (b : Bindings)
    (n : SettingName) (argument : Option Yaml.Value) (Gives : Yaml.Value → α → Prop) (a : α) :
    Prop :=
  ∃ v, n.Selected argument s.environment b v ∧ Gives v a

/-- The selected values of all settings stand for these. -/
structure Determines (s : SettingsSources) (b : Bindings) (settings : Settings) : Prop where
  logLevel : s.Decides b .logLevel s.arguments.logLevel GivesLogLevel settings.logLevel
  maxConcurrency : s.Decides b .maxConcurrency s.arguments.maxConcurrency GivesMaxConcurrency
    settings.maxConcurrency
  outputFormat : s.Decides b .outputFormat s.arguments.outputFormat GivesOutputFormat
    settings.outputFormat
  ignoreDirs : s.Decides b .ignoreDirs none GivesNames settings.ignoreDirs

/-- The selected values of all settings are valid, each for itself. -/
structure SelectsValid (s : SettingsSources) (b : Bindings) : Prop where
  logLevel : ∃ l, s.Decides b .logLevel s.arguments.logLevel GivesLogLevel l
  maxConcurrency : ∃ n,
    s.Decides b .maxConcurrency s.arguments.maxConcurrency GivesMaxConcurrency n
  outputFormat : ∃ f, s.Decides b .outputFormat s.arguments.outputFormat GivesOutputFormat f
  ignoreDirs : ∃ names, s.Decides b .ignoreDirs none GivesNames names

theorem selectsValid_iff : s.SelectsValid b ↔ ∃ settings, s.Determines b settings := by
  constructor
  · rintro ⟨⟨l, hl⟩, ⟨n, hn⟩, ⟨f, hf⟩, ⟨names, hnames⟩⟩
    exact ⟨⟨l, n, f, names⟩, ⟨hl, hn, hf, hnames⟩⟩
  · rintro ⟨settings, ⟨hl, hn, hf, hnames⟩⟩
    exact ⟨⟨_, hl⟩, ⟨_, hn⟩, ⟨_, hf⟩, ⟨_, hnames⟩⟩

theorem decides_iff {α : Type} {n : SettingName} {argument : Option Yaml.Value}
    {Gives : Yaml.Value → α → Prop} {a : α} :
    s.Decides b n argument Gives a ↔ Gives (n.resolve argument s.environment b) a := by
  constructor
  · rintro ⟨v, hv, h⟩
    rw [SettingName.selected_iff.mp hv]
    exact h
  · intro h
    exact ⟨_, SettingName.selected_resolve .., h⟩

theorem resolve_eq_ok_iff :
    Settings.resolve s.arguments s.environment b = .ok settings ↔ s.Determines b settings := by
  rw [Settings.resolve]
  simp only [Checked.seq_eq_ok_iff, Checked.map_eq_ok_iff, Checked.ofExcept_eq_ok_iff,
    checkLogLevel_eq_ok_iff, checkMaxConcurrency_eq_ok_iff, checkOutputFormat_eq_ok_iff,
    checkNameList_eq_ok_iff]
  constructor
  · rintro ⟨_, _, ⟨_, _, ⟨_, _, ⟨_, hl, rfl⟩, hn, rfl⟩, hf, rfl⟩, hi, rfl⟩
    exact ⟨decides_iff.mpr hl, decides_iff.mpr hn, decides_iff.mpr hf, decides_iff.mpr hi⟩
  · rintro ⟨hl, hn, hf, hi⟩
    exact ⟨_, _, ⟨_, _, ⟨_, _, ⟨_, decides_iff.mp hl, rfl⟩, decides_iff.mp hn, rfl⟩,
      decides_iff.mp hf, rfl⟩, decides_iff.mp hi, rfl⟩

/-- What the selected values stand for is written down, and loaded if it can
be. -/
theorem load_of_determines (hb : s.Offers b) (h : s.Determines b settings) :
    s.load = if settings.isShowable then .ok settings else .error (.value .unwritable) := by
  rw [load_eq_bind, bindings_eq_ok_iff.mpr hb, Except.bind, resolve_eq_ok_iff.mpr h]

/-- A selected value that is not valid is told. -/
theorem load_eq_invalid (hb : s.Offers b) (h : ¬ s.SelectsValid b) :
    ∃ r, s.load = .error (.config (.invalid r)) := by
  rw [load_eq_bind, bindings_eq_ok_iff.mpr hb, Except.bind]
  cases hresolve : Settings.resolve s.arguments s.environment b with
  | ok settings => exact absurd (selectsValid_iff.mpr ⟨settings, resolve_eq_ok_iff.mp hresolve⟩) h
  | faults fs => exact ⟨_, rfl⟩

/-- The number of components has few enough digits to be written down. -/
theorem isShowable_iff_of_determines (h : s.Determines b settings) :
    settings.isShowable = true ↔ settings.maxConcurrency < Json.leastUnwritable := by
  obtain ⟨-, -, -, hpositive⟩ := h.maxConcurrency
  rw [Settings.isShowable, Json.Value.isShowable, decide_eq_true_eq, ← Int.ofNat_lt,
    Int.natAbs_of_nonneg (by omega)]

/-- **Each setting is what its selected value stands for.** -/
theorem load_eq_ok_iff (hb : s.Offers b) :
    s.load = .ok settings ↔
      s.Determines b settings ∧ settings.maxConcurrency < Json.leastUnwritable := by
  constructor
  · intro hload
    by_cases hvalid : s.SelectsValid b
    · obtain ⟨settings', hdetermines⟩ := selectsValid_iff.mp hvalid
      rw [load_of_determines hb hdetermines] at hload
      split at hload
      · cases hload
        exact ⟨hdetermines, (isShowable_iff_of_determines hdetermines).mp ‹_›⟩
      · cases hload
    · obtain ⟨r, hr⟩ := load_eq_invalid hb hvalid
      rw [hr] at hload
      cases hload
  · rintro ⟨hdetermines, hdigits⟩
    rw [load_of_determines hb hdetermines,
      if_pos ((isShowable_iff_of_determines hdetermines).mpr hdigits)]

/-- The number that is selected has few enough digits to be written down. -/
def SelectsWritable (s : SettingsSources) (b : Bindings) : Prop :=
  ∀ n, s.Decides b .maxConcurrency s.arguments.maxConcurrency GivesMaxConcurrency n →
    n < Json.leastUnwritable

/-- The selected value stands for one number. -/
theorem selectsWritable_iff (h : s.Determines b settings) :
    s.SelectsWritable b ↔ settings.maxConcurrency < Json.leastUnwritable := by
  refine ⟨fun hwritable => hwritable _ h.maxConcurrency, fun hdigits n hn => ?_⟩
  have hselected := (decides_iff.mp h.maxConcurrency).1
  rw [(decides_iff.mp hn).1] at hselected
  cases hselected
  exact hdigits

theorem exists_load_eq_ok_iff (hb : s.Offers b) :
    (∃ settings, s.load = .ok settings) ↔ s.SelectsValid b ∧ s.SelectsWritable b := by
  simp only [load_eq_ok_iff hb]
  constructor
  · rintro ⟨settings, hdetermines, hdigits⟩
    exact ⟨selectsValid_iff.mpr ⟨settings, hdetermines⟩,
      (selectsWritable_iff hdetermines).mpr hdigits⟩
  · rintro ⟨hvalid, hwritable⟩
    obtain ⟨settings, hdetermines⟩ := selectsValid_iff.mp hvalid
    exact ⟨settings, hdetermines, (selectsWritable_iff hdetermines).mp hwritable⟩

/-- A number with too many digits ends the loading, though it is valid. -/
theorem load_eq_unwritable (hb : s.Offers b) (hvalid : s.SelectsValid b)
    (h : ¬ s.SelectsWritable b) : s.load = .error (.value .unwritable) := by
  obtain ⟨settings, hdetermines⟩ := selectsValid_iff.mp hvalid
  rw [selectsWritable_iff hdetermines, ← isShowable_iff_of_determines hdetermines] at h
  rw [load_of_determines hb hdetermines, if_neg h]

/-! ## §5 Changes behind what decides -/

/-- Nothing that a variable of this name holds counts. -/
structure HidesVariable (s : SettingsSources) (x : String) : Prop where
  settings : ∀ p ∈ s.arguments.given, p.1.inEnvironment = some x → p.2 ≠ none
  configFile : x = SettingName.configVariable →
    ∃ file, s.arguments.configFile = some file ∧ file ≠ ""

/-- Nothing that stands under this key in the settings file counts. -/
def HidesKey (s : SettingsSources) (key : String) : Prop :=
  ∀ p ∈ s.arguments.given, p.1.key = key → p.1.IsHidden p.2 s.environment

/-- A change of what does not count. -/
inductive HiddenChange : SettingsSources → SettingsSources → Prop where
  /-- Variables behind arguments, and those that stand for no setting. -/
  | environment {s : SettingsSources} {env : Environment} :
      (∀ x, s.HidesVariable x ∨ env.lookup x = s.environment.lookup x) →
      HiddenChange s { s with environment := env }
  /-- Files that are not the settings file. -/
  | files {s : SettingsSources} {tree : FileTree} :
      (∀ file ∈ s.file?, tree.openFile s.directory file = s.tree.openFile s.directory file) →
      HiddenChange s { s with tree }
  /-- Keys of the settings file that are behind arguments or variables, and
  those that stand for no setting. -/
  | keys {s : SettingsSources} {tree : FileTree} {b b' : Bindings} :
      s.Offers b → Offers { s with tree } b' →
      (∀ key, s.HidesKey key ∨ Yaml.Value.lookup b' key = Yaml.Value.lookup b key) →
      HiddenChange s { s with tree }
  /-- Keys beside the section for this program. -/
  | beside {s : SettingsSources} {tree : FileTree} {file : String} {ps ps' qs : Bindings} :
      s.Holds file (.map ps) → Holds { s with tree } file (.map ps') →
      Yaml.Value.lookup ps sectionKey = some (.map qs) →
      Yaml.Value.lookup ps' sectionKey = some (.map qs) →
      HiddenChange s { s with tree }

theorem file?_of_hidesVariable {env : Environment}
    (h : s.HidesVariable SettingName.configVariable ∨
      env.lookup SettingName.configVariable = s.environment.lookup SettingName.configVariable) :
    file? { s with environment := env } = s.file? := by
  rw [file?, file?, configFile?, configFile?]
  rcases h with h | h
  · obtain ⟨file, hfile, hne⟩ := h.configFile rfl
    have hkept : (some file).filter (· != "") = some file := by simp [hne]
    dsimp only
    rw [hfile, hkept]
  · rw [h]

/-- One change. -/
theorem HiddenChange.load_eq (h : HiddenChange s s') : s'.load = s.load := by
  cases h with
  | @environment env h =>
    have hbindings : bindings { s with environment := env } = s.bindings := by
      have hfile : configFile? s.arguments env = configFile? s.arguments s.environment :=
        file?_of_hidesVariable (h _)
      rw [bindings, bindings, Settings.bindings, Settings.bindings, hfile]
    rw [load_eq_bind, load_eq_bind, hbindings]
    have hresolve (b : Bindings) :
        Settings.resolve s.arguments env b = Settings.resolve s.arguments s.environment b := by
      refine Settings.resolve_congr fun p hp => SettingName.resolve_congr ?_ fun _ => rfl
      intro hnone x hx
      exact (h x).resolve_left fun hidden => hidden.settings p hp hx hnone
    simp only [hresolve]
  | @files tree h =>
    have hbindings : bindings { s with tree } = s.bindings := by
      rw [bindings, bindings, Settings.bindings, Settings.bindings]
      cases hfile : configFile? s.arguments s.environment with
      | none => rfl
      | some file =>
        simp only [loadSettingsFile]
        rw [h file hfile]
    rw [load_eq_bind, load_eq_bind, hbindings]
  | @keys tree b b' hb hb' h =>
    rw [load_eq_bind, load_eq_bind, bindings_eq_ok_iff.mpr hb, bindings_eq_ok_iff.mpr hb']
    have hresolve : Settings.resolve s.arguments s.environment b' =
        Settings.resolve s.arguments s.environment b := by
      refine Settings.resolve_congr fun p hp =>
        SettingName.resolve_congr (fun _ _ _ => rfl) fun hshown => ?_
      exact (h p.1.key).resolve_left fun hidden => hshown (hidden p hp rfl)
    simp only [Except.bind, hresolve]
  | beside h h' hsection hsection' =>
    rw [load_eq_bind, load_eq_bind, bindings_eq_ok_iff.mpr (.file h (.part hsection)),
      bindings_eq_ok_iff.mpr (.file h' (.part hsection'))]

/-- **Any number of changes.** -/
theorem load_eq_of_hiddenChanges (h : Relation.ReflTransGen HiddenChange s s') :
    s'.load = s.load := by
  induction h with
  | refl => rfl
  | tail _ h ih => rw [h.load_eq, ih]

end SettingsSources

end ManifestDeps
