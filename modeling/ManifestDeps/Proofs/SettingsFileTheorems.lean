/-
ManifestDeps.Proofs.SettingsFileTheorems — which settings files are accepted.

A file is meant to hold a mapping or nothing. `Yaml.Value.MeansSettings` says
which settings a value stands for: none for null, and for a mapping those of
its section for this program, or its own where it has no such section. A file
whose value stands for no settings is meant to be refused.

The values that count as nothing are more than null, though. An empty text or
list, a zero and a false are taken for an empty file as well
(`Yaml.Value.IsBlank`), and get past the check that the file holds a mapping.
All other values are accepted exactly when they stand for settings
(`settingsOf_eq_ok_iff_meansSettings`), and refused for one of two reasons
else (`settingsOf_eq_error`).
-/
import ManifestDeps.Proofs.SettingsSourceTheorems

namespace ManifestDeps

/-! ## §1 Values of files -/

namespace Yaml.Value

/-- The settings that a value stands for. -/
inductive MeansSettings : Value → Bindings → Prop where
  /-- A file that is empty, or holds an explicit null. -/
  | nothing : MeansSettings .null []
  | whole {ps : Bindings} : lookup ps sectionKey = none → MeansSettings (.map ps) ps
  /-- The section for this program. -/
  | part {ps qs : Bindings} : lookup ps sectionKey = some (.map qs) → MeansSettings (.map ps) qs
  /-- A section that is the mapping it stands in. -/
  | itself {ps : Bindings} : lookup ps sectionKey = some .enclosing → MeansSettings (.map ps) ps

/-- The settings that a value stands for, if it does. -/
def meantSettings? : Value → Option Bindings
  | .null => some []
  | .map ps =>
    match lookup ps sectionKey with
    | none => some ps
    | some (.map qs) => some qs
    | some .enclosing => some ps
    | some _ => none
  | _ => none

/-- A value that counts as nothing, though it is neither null nor a
mapping. -/
inductive IsBlank : Value → Prop where
  | bool : IsBlank (.bool false)
  | int : IsBlank (.int 0)
  | float {x : Decimal.Binary64} : x.isZero = true → IsBlank (.float x)
  | str : IsBlank (.str "")
  | bytes : IsBlank (.bytes [])
  | seq : IsBlank (.seq [])
  | set : IsBlank (.set [])
  | pairs : IsBlank (.pairs [])

variable {v : Value} {b : Bindings}

theorem meantSettings?_eq_some_iff : v.meantSettings? = some b ↔ v.MeansSettings b := by
  constructor
  · intro h
    unfold meantSettings? at h
    split at h
    · cases h
      exact .nothing
    · split at h
      · cases h
        exact .whole ‹_›
      · cases h
        exact .part ‹_›
      · cases h
        exact .itself ‹_›
      · cases h
    · cases h
  · intro h
    cases h with
    | nothing => rfl
    | whole h | part h | itself h => simp [meantSettings?, h]

/-- There are three kinds of values that count as nothing. -/
theorem isSet_eq_false_iff : v.isSet = false ↔ v = .null ∨ v = .map [] ∨ v.IsBlank := by
  constructor
  · intro h
    cases v with
    | null => exact .inl rfl
    | bool x =>
      cases x with
      | false => exact .inr (.inr .bool)
      | true => cases h
    | int n =>
      obtain rfl : n = 0 := by simpa [isSet] using h
      exact .inr (.inr .int)
    | float x => exact .inr (.inr (.float (by simpa [isSet] using h)))
    | str s =>
      obtain rfl : s = "" := by simpa [isSet] using h
      exact .inr (.inr .str)
    | bytes bs =>
      obtain rfl : bs = [] := by simpa [isSet] using h
      exact .inr (.inr .bytes)
    | date t => cases h
    | seq items =>
      obtain rfl : items = [] := by simpa [isSet] using h
      exact .inr (.inr .seq)
    | map ps =>
      obtain rfl : ps = [] := by simpa [isSet] using h
      exact .inr (.inl rfl)
    | set items =>
      obtain rfl : items = [] := by simpa [isSet] using h
      exact .inr (.inr .set)
    | pairs items =>
      obtain rfl : items = [] := by simpa [isSet] using h
      exact .inr (.inr .pairs)
    | enclosing => cases h
  · rintro (rfl | rfl | h)
    · rfl
    · rfl
    · cases h with
      | float hx => simp [isSet, hx]
      | _ => rfl

/-- A blank value stands for no settings. -/
theorem IsBlank.not_meansSettings (h : v.IsBlank) : ¬ v.MeansSettings b := by
  intro hb
  cases hb <;> cases h

/-- The bindings that count are those that the value stands for, or none for a
blank value. -/
theorem sectionOf_iff : SectionOf v b ↔ v.MeansSettings b ∨ v.IsBlank ∧ b = [] := by
  constructor
  · intro h
    cases h with
    | nothing h =>
      rcases isSet_eq_false_iff.mp h with rfl | rfl | hblank
      · exact .inl .nothing
      · exact .inl (.whole rfl)
      · exact .inr ⟨hblank, rfl⟩
    | whole h => exact .inl (.whole h)
    | part h => exact .inl (.part h)
    | itself h => exact .inl (.itself h)
  · rintro (h | ⟨hblank, rfl⟩)
    · cases h with
      | nothing => exact .nothing rfl
      | whole h => exact .whole h
      | part h => exact .part h
      | itself h => exact .itself h
    · exact .nothing (isSet_eq_false_iff.mpr (.inr (.inr hblank)))

end Yaml.Value

/-! ## §2 What becomes of them -/

section

variable {t : FileTree} {base : Path} {file text : String} {v : Yaml.Value} {b : Bindings}

theorem settingsOf_eq_ok_iff_meansSettings :
    settingsOf file v = .ok b ↔ v.MeansSettings b ∨ v.IsBlank ∧ b = [] := by
  rw [settingsOf_eq_ok_iff, Yaml.Value.sectionOf_iff]

/-- **A value is refused** for its section if it is a mapping, else for not
being one. -/
theorem settingsOf_eq_error {e : ConfigError} (h : settingsOf file v = .error e) :
    (∃ ps, v = .map ps) ∧ e = .sectionNotMapping file ∨
      (∀ ps, v ≠ .map ps) ∧ e = .notMapping file := by
  unfold settingsOf at h
  split at h
  · split at h
    · split at h
      · cases h
      · cases h
      · cases h
      · exact .inl ⟨⟨_, rfl⟩, (Except.error.inj h).symm⟩
    · rename_i hnomap
      exact .inr ⟨hnomap, (Except.error.inj h).symm⟩
  · cases h

/-- A file can be read and holds this text. -/
def FileTree.HoldsText (t : FileTree) (base : Path) (file text : String) : Prop :=
  '\x00' ∉ file.toList ∧
    ∃ bytes, t.openFile base file = .ok bytes ∧ decodeFile bytes = .ok text

theorem FileTree.HoldsText.loadSettingsFile_eq (h : t.HoldsText base file text)
    (hload : Yaml.load text = .ok v) :
    loadSettingsFile t base file = (settingsOf file v).mapError .config := by
  obtain ⟨hnul, bytes, hopen, hdecode⟩ := h
  have hfile : loadSettingsFile t base file = settingsOfText file text := by
    rw [loadSettingsFile_of_noNul hnul, hopen]
    simp only [hdecode]
  rw [hfile, settingsOfText, hload]
  cases hsettings : settingsOf file v <;> simp [hsettings, Except.mapError]

end

/-- **Which settings files are accepted.** A file that can be read, and whose
text stands for a value, gives the settings that the value stands for. It is
refused where the value stands for none, with a `ConfigError` that names the
file and the reason: a mapping is refused for its section, anything else for
not being a mapping. The one exception are blank values, which stand for no
settings and are accepted as if the file were empty. -/
theorem settings_file_gives_meant_settings {t : FileTree} {base : Path} {file text : String}
    {v : Yaml.Value} (hholds : t.HoldsText base file text) (hload : Yaml.load text = .ok v) :
    (¬ v.IsBlank →
      (∀ b, loadSettingsFile t base file = .ok b ↔ v.MeansSettings b) ∧
      ((∀ b, ¬ v.MeansSettings b) →
        ((∃ ps, v = .map ps) →
          loadSettingsFile t base file = .error (.config (.sectionNotMapping file))) ∧
        ((∀ ps, v ≠ .map ps) →
          loadSettingsFile t base file = .error (.config (.notMapping file))))) ∧
    (v.IsBlank → (∀ b, ¬ v.MeansSettings b) ∧ loadSettingsFile t base file = .ok []) := by
  rw [hholds.loadSettingsFile_eq hload]
  have hok := fun b => @settingsOf_eq_ok_iff_meansSettings file v b
  refine ⟨fun hblank => ⟨fun b => ?_, fun hnone => ?_⟩, fun hblank => ⟨fun b =>
    hblank.not_meansSettings, ?_⟩⟩
  · have hmeans : settingsOf file v = .ok b ↔ v.MeansSettings b := by
      rw [hok, or_iff_left fun h => hblank h.1]
    rw [← hmeans]
    cases settingsOf file v <;> simp [Except.mapError]
  · cases hsettings : settingsOf file v with
    | ok b =>
      rcases (hok b).mp hsettings with hmeans | h
      · exact absurd hmeans (hnone b)
      · exact absurd h.1 hblank
    | error e =>
      rcases settingsOf_eq_error hsettings with ⟨⟨ps, hps⟩, rfl⟩ | ⟨hnomap, rfl⟩
      · exact ⟨fun _ => rfl, fun hno => absurd hps (hno ps)⟩
      · exact ⟨fun ⟨ps, hps⟩ => absurd hps (hnomap ps), fun _ => rfl⟩
  · rw [(hok []).mpr (.inr ⟨hblank, rfl⟩)]
    rfl

/-- What a text stands for, known by something that is computed from it. -/
theorem exists_load_of_bind {α : Type} {text : String} {f : Yaml.Value → Option α} {x : α}
    (h : (Yaml.load text).toOption.bind f = some x) :
    ∃ v, Yaml.load text = .ok v ∧ f v = some x := by
  cases hload : Yaml.load text with
  | error e =>
    rw [hload] at h
    cases h
  | ok v =>
    rw [hload] at h
    exact ⟨v, rfl, h⟩

/-- A file shared with other tools gives the section for this program. -/
theorem settings_file_gives_meant_settings_shared :
    let text := "other: 1\ncomponent_analyzer: \x7blog_level: debug\x7d"
    let t : FileTree := .directory [("conf.yaml", .file (Text.encodeUtf8 text))]
    ∃ v b, t.HoldsText [] "conf.yaml" text ∧ Yaml.load text = .ok v ∧ ¬ v.IsBlank ∧
      v.MeansSettings b ∧ loadSettingsFile t [] "conf.yaml" = .ok b ∧
      (Yaml.Value.lookup b "log_level").bind textOfValue? = some "debug" := by
  intro text t
  have hholds : t.HoldsText [] "conf.yaml" text := ⟨by decide, _, rfl, by decide +kernel⟩
  have hlevel : ((Yaml.load text).toOption.bind fun v => v.meantSettings?.bind fun b =>
      (Yaml.Value.lookup b "log_level").bind textOfValue?) = some "debug" := by
    decide +kernel
  obtain ⟨v, hload, hlevel⟩ := exists_load_of_bind hlevel
  obtain ⟨b, hb, hlevel⟩ := Option.bind_eq_some_iff.mp hlevel
  have hmeans := Yaml.Value.meantSettings?_eq_some_iff.mp hb
  have hblank : ¬ v.IsBlank := fun h => h.not_meansSettings hmeans
  have hloaded := (settings_file_gives_meant_settings hholds hload).1 hblank
  exact ⟨v, b, hholds, hload, hblank, hmeans, (hloaded.1 b).mpr hmeans, hlevel⟩

/-- A file that holds an empty list is accepted, though it stands for no
settings. -/
theorem settings_file_of_empty_list_is_accepted :
    let t : FileTree := .directory [("conf.yaml", .file (Text.encodeUtf8 "[]"))]
    Yaml.load "[]" = .ok (.seq []) ∧ (∀ b, ¬ (Yaml.Value.seq []).MeansSettings b) ∧
      loadSettingsFile t [] "conf.yaml" = .ok [] := by
  intro t
  have hholds : t.HoldsText [] "conf.yaml" "[]" := ⟨by decide, _, rfl, by decide +kernel⟩
  have hload : Yaml.load "[]" = .ok (.seq []) := by
    have hitems : ((Yaml.load "[]").toOption.bind fun
        | .seq items => some items.isEmpty
        | _ => none) = some true := by
      decide +kernel
    obtain ⟨v, hload, hitems⟩ := exists_load_of_bind hitems
    cases v with
    | seq items =>
      obtain rfl : items = [] := by simpa using hitems
      exact hload
    | _ => cases hitems
  refine ⟨hload, fun b => Yaml.Value.IsBlank.seq.not_meansSettings, ?_⟩
  rw [hholds.loadSettingsFile_eq hload]
  rfl

end ManifestDeps
