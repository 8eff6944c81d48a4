/-
ManifestDeps.Proofs.ODataVersionTheorems — the class that a version implies.

A model without a type of its own leaves its class to its data source. Over
OData this is a matter of the version alone, which may be any JSON value
(`Manifest.LeavesClassTo.modelClass_eq`): two texts are known, null stands
for no version, and the rule that every other value is reported
(`strictClass`) would say all. The rule in use asks whether something is set
instead. It takes false, zeros and whatever is empty for no version as well,
and silently chooses version 2: these values, and no others, are where it
departs from the strict rule (`odata_version_settles_class`).
-/
import ManifestDeps.Proofs.AccountingTheorems
import ManifestDeps.Proofs.ShapeTheorems

namespace ManifestDeps

open Json (Value)
open TargetView (nonEmpty?)

/-! ## §1 Values that are not set -/

/-- The values that stand for nothing. -/
inductive Unset : Value → Prop where
  | null : Unset .null
  | false : Unset (.bool false)
  | zero : Unset (.int 0)
  | zeroFloat {x : Decimal.Binary64} : x.isZero = true → Unset (.float x)
  | emptyText : Unset (.str "")
  | emptyArray : Unset (.arr [])
  | emptyObject : Unset (.obj [])

theorem isSet_eq_false_iff {v : Value} : v.isSet = false ↔ Unset v := by
  constructor
  · intro h
    cases v with
    | null => exact .null
    | bool b => cases h; exact .false
    | int n =>
      obtain rfl : n = 0 := by simpa [Value.isSet] using h
      exact .zero
    | float x => exact .zeroFloat (by simpa [Value.isSet] using h)
    | str s =>
      obtain rfl : s = "" := by simpa [Value.isSet] using h
      exact .emptyText
    | arr items =>
      obtain rfl : items = [] := by simpa [Value.isSet] using h
      exact .emptyArray
    | obj members =>
      obtain rfl : members = [] := by simpa [Value.isSet] using h
      exact .emptyObject
  · intro h
    cases h with
    | zeroFloat hx => simp [Value.isSet, hx]
    | _ => rfl

theorem not_unset_str {s : String} (h : s ≠ "") : ¬ Unset (.str s) := by
  rintro ⟨⟩
  exact h rfl

instance : DecidablePred Unset := fun _ => decidable_of_iff _ isSet_eq_false_iff

/-! ## §2 The class of a model over OData -/

/-- The warning that a version is not known. -/
def unknownVersion (version : Value) (source model : String) : Diagnostic where
  severity := .warn
  code := .unknownODataVersion
  context := [("rule", .str "model"), ("odata_version", .value version),
    ("data_source", .str source), ("model", .str model)]

/-- The rule that reports every value but null and the two known texts. -/
def strictClass (version : Value) (source model : String) : Except Diagnostic String :=
  if version = .str "4.0" then .ok odataV4Model
  else if version = .null ∨ version = .str "2.0" then .ok odataV2Model
  else .error (unknownVersion version source model)

/-- A model without a type of its own names a data source, and the source is
there and is OData, which is also meant by an empty type or none. -/
structure Manifest.LeavesClassTo (m : Manifest) (model name : String) (source : DataSource) :
    Prop where
  untyped : ∃ c, (m.ui.models.getD []).lookup model = some (some c) ∧
    (∀ t, c.type = some t → t = "") ∧ c.dataSource = some name
  named : name ≠ ""
  found : m.dataSource? name = some source
  odata : ∀ t, source.type = some t → t = "" ∨ t = "OData"

variable {m : Manifest} {model name : String} {source : DataSource}

/-- **Over OData, the version alone decides.** -/
theorem Manifest.LeavesClassTo.modelClass_eq (h : m.LeavesClassTo model name source) :
    m.modelClass model =
      if source.version = .str "4.0" then .ok odataV4Model
      else if Unset source.version ∨ source.version = .str "2.0" then .ok odataV2Model
      else .error (unknownVersion source.version name model) := by
  obtain ⟨⟨c, hc, htype, hsource⟩, hname, hfound, hodata⟩ := h
  have hown : nonEmpty? c.type = none := TargetView.nonEmpty?_eq_none_iff.mpr htype
  have hnamed : nonEmpty? c.dataSource = some name :=
    TargetView.nonEmpty?_eq_some_iff.mpr ⟨hsource, hname⟩
  have hsourceType : (nonEmpty? source.type).getD defaultDataSourceType = "OData" := by
    cases ht : nonEmpty? source.type with
    | none => rfl
    | some t =>
      obtain ⟨hst, hne⟩ := TargetView.nonEmpty?_eq_some_iff.mp ht
      exact (hodata t hst).resolve_left hne
  have hclass : m.modelClass model = source.modelClass name model := by
    simp only [Manifest.modelClass_eq, hc, Option.join_some, Option.bind_some, hown, hnamed, hfound]
  rw [hclass, DataSource.modelClass_eq]
  simp only [hsourceType, if_pos, Bool.or_eq_true, Bool.not_eq_true', decide_eq_true_eq,
    isSet_eq_false_iff]
  rfl

/-- **What a version implies over OData.** The class is that of version 4
just for the text `4.0`, and that of version 2 just for the text `2.0` and
for the values that are not set. For every other value there is none, and
exactly the warning that names this value, the data source and the model.
So the strict rule is in use, except for the values other than null that are
not set. -/
theorem odata_version_settles_class (h : m.LeavesClassTo model name source) :
    (m.modelClass model = .ok odataV4Model ↔ source.version = .str "4.0") ∧
      (m.modelClass model = .ok odataV2Model ↔
        source.version = .str "2.0" ∨ Unset source.version) ∧
      (m.modelClass model = .error (unknownVersion source.version name model) ↔
        source.version ≠ .str "4.0" ∧ source.version ≠ .str "2.0" ∧ ¬ Unset source.version) ∧
      (m.modelClass model = strictClass source.version name model ↔
        (Unset source.version → source.version = .null)) := by
  have hclasses : odataV2Model ≠ odataV4Model := by decide
  rw [h.modelClass_eq, strictClass]
  generalize source.version = version
  by_cases h4 : version = .str "4.0"
  · simp [h4, hclasses.symm, not_unset_str]
  by_cases h2 : version = .str "2.0"
  · simp [h2, hclasses, not_unset_str]
  by_cases hset : Unset version
  · by_cases hnull : version = .null
    · simp [hnull, hclasses, Unset.null]
    · simp [h4, h2, hset, hnull, hclasses]
  · have hnull : version ≠ .null := by
      rintro rfl
      exact hset .null
    simp [h4, h2, hset, hnull]

/-- A model over a source whose version is a list. -/
theorem odata_version_list_is_reported :
    let source : DataSource := { settings := some { odataVersion := .arr [.str "4.0"] } }
    let m : Manifest :=
      { app := { dataSources := some [("d", source)] }
        ui := { models := some [("m", some { dataSource := some "d" })] } }
    m.LeavesClassTo "m" "d" source ∧
      m.modelClass "m" = .error (unknownVersion (.arr [.str "4.0"]) "d" "m") := by
  intro source m
  have h : m.LeavesClassTo "m" "d" source :=
    ⟨⟨_, rfl, by simp, rfl⟩, by decide, rfl, by simp [source]⟩
  have hversion : source.version = .arr [.str "4.0"] := rfl
  obtain ⟨-, -, hreported, -⟩ := odata_version_settles_class h
  rw [hversion] at hreported
  exact ⟨h, hreported.mpr (by decide)⟩

/-- The number zero is not null and no text, and yet silently version 2. -/
theorem odata_version_zero_is_version_two :
    let text := "\x7b\"sap.app\": \x7b\"dataSources\": \x7b\"d\": \x7b\"settings\": " ++
      "\x7b\"odataVersion\": 0\x7d\x7d\x7d\x7d, " ++
      "\"sap.ui5\": \x7b\"models\": \x7b\"m\": \x7b\"dataSource\": \"d\"\x7d\x7d\x7d\x7d"
    let source : DataSource := { settings := some { odataVersion := .int 0 } }
    let m : Manifest :=
      { app := { dataSources := some [("d", source)] }
        ui := { models := some [("m", some { dataSource := some "d" })] } }
    Manifest.parse "manifest.json" (.text text) = .ok m ∧ m.LeavesClassTo "m" "d" source ∧
      m.modelClass "m" = .ok odataV2Model ∧
      strictClass source.version "d" "m" = .error (unknownVersion (.int 0) "d" "m") := by
  intro text source m
  have hread : (Content.text text).readJson = .ok (.obj [
      ("sap.app", .obj [("dataSources", .obj [("d", .obj [("settings", .obj [
        ("odataVersion", .int 0)])])])]),
      ("sap.ui5", .obj [("models", .obj [("m", .obj [("dataSource", .str "d")])])])]) := by
    decide +kernel
  have hparse : Manifest.parse "manifest.json" (.text text) = .ok m := by
    rw [Manifest.parse_of_readJson hread]
    rfl
  exact ⟨hparse, ⟨⟨_, rfl, by simp, rfl⟩, by decide, rfl, by simp [source]⟩,
    by decide +kernel, by decide +kernel⟩

end ManifestDeps
