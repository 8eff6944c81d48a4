/-
ManifestDeps.Proofs.ShapeTheorems — which JSON values are manifests.

A `Shape` is a test of JSON values. The shapes of all records that a
manifest is made of are declared below as tables of fields, from the leaves
up to `Manifest.shape`; they say what is allowed, and know neither places
nor faults nor the records that are made.

A check `Accepts` a shape when it gives a value for just the JSON values of
that shape. The applicative structure of checks turns into conjunction, so
that there is one lemma for each combinator, and one for each record, whose
fields are then compared one by one. Together they say that a manifest is
read exactly from the values of its shape, and that all others are refused
(`parse_accepts_shape`).
-/
import ManifestDeps.Proofs.MemberOrderTheorems

namespace ManifestDeps

open Json (Value)

/-! ## §1 Shapes -/

/-- The value of a field among members: under its main name, or under its
second name where the main name is missing. -/
def FieldName.value? (f : FieldName) (ms : List (String × Value)) : Option Value :=
  (ms.lookup f.main).or (ms.lookup f.second)

/-- A test of JSON values. -/
abbrev Shape := Value → Bool

namespace Shape

/-- Any value. -/
def anything : Shape := fun _ => true

/-- A text. -/
def text : Shape
  | .str _ => true
  | _ => false

/-- An array of anything. -/
def array : Shape
  | .arr _ => true
  | _ => false

/-- Null, or a value of a shape. -/
def orNull (s : Shape) : Shape
  | .null => true
  | v => s v

/-- A value of one of two shapes. -/
def either (s t : Shape) : Shape := fun v => s v || t v

/-- An object all of whose values have a shape. -/
def mapping (s : Shape) : Shape
  | .obj ms => ms.all fun m => s m.2
  | _ => false

/-- The fields that are present among members have their shapes. -/
def fitsFields (fields : List (FieldName × Shape)) (ms : List (String × Value)) : Bool :=
  fields.all fun f => (f.1.value? ms).all f.2

/-- An object whose fields, where present, have their shapes. Other members
are ignored. -/
def record (fields : List (FieldName × Shape)) : Shape
  | .obj ms => fitsFields fields ms
  | _ => false

end Shape

/-! ## §2 The shape of a manifest -/

/-- Settings of a data source: the version may be anything. -/
def DataSourceSettings.shape : Shape :=
  .record [(⟨"odataVersion", "odata_version"⟩, .anything)]

/-- A data source. -/
def DataSource.shape : Shape :=
  .record [(.single "type", Shape.text.orNull),
    (.single "settings", DataSourceSettings.shape.orNull)]

/-- The application section, whose data sources may not be null. -/
def AppSection.shape : Shape :=
  .record [(⟨"dataSources", "data_sources"⟩, DataSource.shape.mapping.orNull)]

/-- Options of the root view. -/
def ViewOptions.shape : Shape :=
  .record [(⟨"viewName", "view_name"⟩, Shape.text.orNull), (.single "type", Shape.text.orNull)]

/-- The root view: a name or options. -/
def RootView.shape : Shape :=
  .either .text ViewOptions.shape

/-- Options of a library or component: being lazy may be anything. -/
def DependencyOptions.shape : Shape :=
  .record [(.single "lazy", .anything)]

/-- Libraries and components. -/
def Declarations.shape : Shape :=
  .record [(.single "libs", DependencyOptions.shape.orNull.mapping.orNull),
    (.single "components", DependencyOptions.shape.orNull.mapping.orNull)]

/-- A component usage: being lazy may be anything. -/
def ComponentUsage.shape : Shape :=
  .record [(.single "name", Shape.text.orNull), (.single "lazy", .anything)]

/-- A model. -/
def ModelConfig.shape : Shape :=
  .record [(.single "type", Shape.text.orNull),
    (⟨"dataSource", "data_source"⟩, Shape.text.orNull)]

/-- Shared routing settings. -/
def RoutingDefaults.shape : Shape :=
  .record [(⟨"routerClass", "router_class"⟩, Shape.text.orNull),
    (⟨"targetsClass", "targets_class"⟩, Shape.text.orNull),
    (⟨"viewPath", "view_path"⟩, Shape.text.orNull),
    (⟨"viewName", "view_name"⟩, Shape.text.orNull),
    (⟨"viewType", "view_type"⟩, Shape.text.orNull)]

/-- A routing target. -/
def RoutingTarget.shape : Shape :=
  .record [(⟨"viewPath", "view_path"⟩, Shape.text.orNull),
    (⟨"viewName", "view_name"⟩, Shape.text.orNull),
    (⟨"viewType", "view_type"⟩, Shape.text.orNull)]

/-- Routes: an array or an object, of anything. -/
def Routes.shape : Shape :=
  .either .array Shape.anything.mapping

/-- The routing section. -/
def Routing.shape : Shape :=
  .record [(.single "config", RoutingDefaults.shape.orNull),
    (.single "routes", Routes.shape.orNull),
    (.single "targets", RoutingTarget.shape.orNull.mapping.orNull)]

/-- The UI section. -/
def UiSection.shape : Shape :=
  .record [(⟨"rootView", "root_view"⟩, RootView.shape.orNull),
    (.single "dependencies", Declarations.shape.orNull),
    (⟨"componentUsages", "component_usages"⟩, ComponentUsage.shape.orNull.mapping.orNull),
    (.single "models", ModelConfig.shape.orNull.mapping.orNull),
    (.single "routing", Routing.shape.orNull),
    (.single "resources", Shape.anything.mapping.orNull)]

/-- The members of an object without the sections that are null. -/
def withoutNullSections (ms : List (String × Value)) : List (String × Value) :=
  ms.filter fun m => m ≠ ("sap.app", .null) ∧ m ≠ ("sap.ui5", .null)

/-- A manifest: the two sections, where present, are objects. -/
def Manifest.shape : Shape
  | .obj ms => Shape.fitsFields [(⟨"sap.app", "sap_app"⟩, AppSection.shape),
      (⟨"sap.ui5", "sap_ui5"⟩, UiSection.shape)] (withoutNullSections ms)
  | _ => false

/-! ## §3 Checks that accept a shape -/

namespace Checked

variable {α β : Type}

/-- There is a value and no fault. -/
def Succeeds (x : Checked α) : Prop :=
  ∃ a, x = .ok a

@[simp] theorem succeeds_ok (a : α) : (ok a).Succeeds :=
  ⟨a, rfl⟩

@[simp] theorem not_succeeds_faults (fs : List Located) :
    ¬ (faults fs : Checked α).Succeeds := by
  rintro ⟨a, h⟩
  cases h

@[simp] theorem succeeds_map {f : α → β} {x : Checked α} :
    (f <$> x).Succeeds ↔ x.Succeeds := by
  cases x <;> simp

/-- A record is read when both of its parts are. -/
@[simp] theorem succeeds_seq {f : Checked (α → β)} {x : Checked α} :
    (f <*> x).Succeeds ↔ f.Succeeds ∧ x.Succeeds := by
  cases f <;> cases x <;> simp

end Checked

namespace Check

open Shape (fitsFields)

variable {α : Type} {c : Check α} {s : Shape}

/-- Just the values of a shape pass the check, wherever they stand. -/
def Accepts (c : Check α) (s : Shape) : Prop :=
  ∀ (place : Place) (v : Value), (c place v).Succeeds ↔ s v = true

theorem accepts_any : any.Accepts .anything := fun _ _ => by simp [any, Shape.anything]

theorem accepts_switch : switch.Accepts .anything := fun _ _ => by
  simp [switch, Shape.anything]

theorem accepts_text : text.Accepts .text := by
  intro place v
  cases v <;> simp [text, Shape.text, Checked.fault]

theorem Accepts.nullable (h : c.Accepts s) : c.nullable.Accepts s.orNull := by
  intro place v
  by_cases hv : v = .null
  · subst hv
    simp [Check.nullable, Shape.orNull]
  · have horNull : s.orNull v = s v := by
      cases v with
      | null => exact absurd rfl hv
      | _ => rfl
    rw [nullable_of_ne_null hv, Checked.succeeds_map, horNull]
    exact h place v

theorem Accepts.members (h : c.Accepts s) (place : Place) (ms : List (String × Value)) :
    (c.members place ms).Succeeds ↔ ∀ m ∈ ms, s m.2 = true := by
  induction ms with
  | nil => simp [Check.members]
  | cons m rest ih =>
    rw [Check.members, Checked.succeeds_seq, Checked.succeeds_map, ih, h, List.forall_mem_cons]

theorem Accepts.table (h : c.Accepts s) : c.table.Accepts s.mapping := by
  intro place v
  cases v with
  | obj ms => simpa [Check.table, Shape.mapping] using h.members place ms
  | _ => simp [Check.table, Shape.mapping, Checked.fault]

/-! ### Fields -/

theorem find?_eq_none_iff {f : FieldName} {ms : List (String × Value)} :
    f.find? ms = none ↔ f.value? ms = none := by
  rw [FieldName.find?, FieldName.value?]
  cases ms.lookup f.main <;> simp

theorem value?_of_find? {f : FieldName} {ms : List (String × Value)} {m : String × Value}
    (h : f.find? ms = some m) : f.value? ms = some m.2 := by
  rw [FieldName.find?] at h
  rw [FieldName.value?]
  cases hmain : ms.lookup f.main with
  | some v =>
    rw [hmain] at h
    cases h
    rfl
  | none =>
    rw [hmain] at h
    obtain ⟨v, hv, rfl⟩ := Option.map_eq_some_iff.mp h
    simpa using hv

/-- A field that may be missing or null. -/
theorem Accepts.field (h : c.Accepts s) (f : FieldName) (place : Place)
    (ms : List (String × Value)) :
    (c.field f place ms).Succeeds ↔ (f.value? ms).all s.orNull = true := by
  rw [Check.field]
  cases hfind : f.find? ms with
  | none => simp [find?_eq_none_iff.mp hfind]
  | some m =>
    rw [value?_of_find? hfind]
    exact h.nullable _ _

/-- A section that may be missing. -/
theorem Accepts.section (h : c.Accepts s) (missing : α) (f : FieldName)
    (ms : List (String × Value)) :
    (c.section missing f ms).Succeeds ↔ (f.value? ms).all s = true := by
  rw [Check.section]
  cases hfind : f.find? ms with
  | none => simp [find?_eq_none_iff.mp hfind]
  | some m =>
    rw [value?_of_find? hfind]
    exact h _ _

/-- **A record** is compared field by field. -/
theorem accepts_record {kind : String} {fields : Place → List (String × Value) → Checked α}
    {shapes : List (FieldName × Shape)}
    (h : ∀ place ms, (fields place ms).Succeeds ↔ fitsFields shapes ms = true) :
    (record kind fields).Accepts (.record shapes) := by
  intro place v
  cases v with
  | obj ms => exact h place ms
  | _ => simp [Check.record, Shape.record, Checked.fault]

end Check

open Check (accepts_any accepts_record accepts_switch accepts_text)
open Shape (fitsFields)

/-! ## §4 The records of a manifest -/

@[simp] theorem Shape.orNull_anything : anything.orNull = anything := by
  funext v
  cases v <;> rfl

@[simp] theorem Shape.all_anything (o : Option Value) : o.all anything = true := by
  cases o <;> rfl

theorem DataSourceSettings.accepts_check : check.Accepts shape :=
  accepts_record fun place ms => by simp [fitsFields, accepts_any.field]

theorem DataSource.accepts_check : check.Accepts shape :=
  accepts_record fun place ms => by
    simp [fitsFields, accepts_text.field, DataSourceSettings.accepts_check.field]

theorem AppSection.accepts_check : check.Accepts shape :=
  accepts_record fun place ms => by
    simp [fitsFields, DataSource.accepts_check.table.field]

theorem ViewOptions.accepts_check : check.Accepts shape :=
  accepts_record fun place ms => by simp [fitsFields, accepts_text.field]

/-- What is no text is tried as options. -/
theorem RootView.accepts_check : check.Accepts shape := by
  intro place v
  by_cases hv : ∃ s, v = .str s
  · obtain ⟨s, rfl⟩ := hv
    simp [check, shape, Shape.either, Shape.text]
  · have htext : Shape.text v = false := by
      cases v with
      | str s => exact absurd ⟨s, rfl⟩ hv
      | _ => rfl
    rw [RootView.check_of_ne_str (fun s hs => hv ⟨s, hs⟩), shape, Shape.either, htext,
      Bool.false_or, ← ViewOptions.accepts_check (place ++ [.key "RootView"])]
    cases ViewOptions.check (place ++ [.key "RootView"]) v <;> simp

theorem DependencyOptions.accepts_check : check.Accepts shape :=
  accepts_record fun place ms => by simp [fitsFields]

theorem Declarations.accepts_check : check.Accepts shape :=
  accepts_record fun place ms => by
    simp [fitsFields, DependencyOptions.accepts_check.nullable.table.field]

theorem ComponentUsage.accepts_check : check.Accepts shape :=
  accepts_record fun place ms => by
    simp [fitsFields, accepts_text.field, accepts_switch.field]

theorem ModelConfig.accepts_check : check.Accepts shape :=
  accepts_record fun place ms => by simp [fitsFields, accepts_text.field]

theorem RoutingDefaults.accepts_check : check.Accepts shape :=
  accepts_record fun place ms => by simp [fitsFields, accepts_text.field, and_assoc]

theorem RoutingTarget.accepts_check : check.Accepts shape :=
  accepts_record fun place ms => by simp [fitsFields, accepts_text.field, and_assoc]

theorem Routes.accepts_check : check.Accepts shape := by
  intro place v
  cases v <;> simp [check, shape, Shape.either, Shape.array, Shape.mapping, Shape.anything]

theorem Routing.accepts_check : check.Accepts shape :=
  accepts_record fun place ms => by
    simp [fitsFields, RoutingDefaults.accepts_check.field, Routes.accepts_check.field,
      RoutingTarget.accepts_check.nullable.table.field, and_assoc]

theorem UiSection.accepts_check : check.Accepts shape :=
  accepts_record fun place ms => by
    simp [fitsFields, RootView.accepts_check.field, Declarations.accepts_check.field,
      ComponentUsage.accepts_check.nullable.table.field,
      ModelConfig.accepts_check.nullable.table.field, Routing.accepts_check.field,
      accepts_any.table.field, and_assoc]

theorem filter_isDroppedSection (ms : List (String × Value)) :
    (ms.filter fun m => !isDroppedSection m) = withoutNullSections ms := by
  refine List.filter_congr fun m _ => ?_
  obtain ⟨name, v⟩ := m
  simp only [isDroppedSection, ne_eq, Prod.mk.injEq]
  grind

theorem Manifest.succeeds_checkMembers (ms : List (String × Value)) :
    (checkMembers ms).Succeeds ↔ shape (.obj ms) = true := by
  rw [checkMembers, filter_isDroppedSection, shape]
  simp [fitsFields, AppSection.accepts_check.section, UiSection.accepts_check.section]

/-! ## §5 Reading a manifest -/

theorem Manifest.ofJson_eq_ok_iff {v : Value} : (∃ m, ofJson v = .ok m) ↔ shape v = true := by
  cases v with
  | obj ms =>
    rw [← succeeds_checkMembers, ofJson]
    cases checkMembers ms <;> simp
  | _ => simp [ofJson, shape]

theorem Manifest.parse_of_readJson {content : Content} {v : Value} (h : content.readJson = .ok v)
    (name : String) :
    Manifest.parse name content =
      match Manifest.ofJson v with
      | .ok m => .ok m
      | .error f => .error (.invalid ⟨name, f⟩) := by
  cases hv : Manifest.ofJson v <;> simp [Manifest.parse, h, hv]

/-- **A manifest is read exactly from the values of its shape.** Where a
content decodes to a JSON value, a manifest is read from it if the value has
the shape of a manifest: an object in which each field that is present, by
its main name or else by its second, has its declared shape, once a section
that is null is left out. Every other value is refused as no manifest, under
the name of the file and with the reason: as no object, or by its shape. -/
theorem parse_accepts_shape {content : Content} {v : Value} (h : content.readJson = .ok v)
    (name : String) :
    ((∃ m, Manifest.parse name content = .ok m) ↔ Manifest.shape v = true) ∧
      (¬ Manifest.shape v = true →
        ∃ fault, Manifest.parse name content = .error (.invalid ⟨name, fault⟩) ∧
          (fault = .notObject ↔ ∀ ms, v ≠ .obj ms)) := by
  rw [← Manifest.ofJson_eq_ok_iff, Manifest.parse_of_readJson h]
  cases hv : Manifest.ofJson v with
  | ok m => simp
  | error fault =>
    refine ⟨by simp, fun _ => ⟨fault, rfl, ?_⟩⟩
    cases v with
    | obj ms =>
      rw [Manifest.ofJson] at hv
      split at hv
      · cases hv
      · cases hv
        simp
    | _ => cases hv; simp

/-- A section under its second name counts where the main name is bound to
null. Bound to null itself, it is no object, and nothing drops it. -/
theorem parse_accepts_shape_second_name :
    let accepted : Content := .text ("\x7b\"sap.app\": null, \"sap_app\": \x7b\"dataSources\": " ++
      "\x7b\"d\": \x7b\"settings\": \x7b\"odataVersion\": [4]\x7d\x7d\x7d\x7d, " ++
      "\"sap.ui5\": \x7b\"rootView\": \x7b\"viewName\": null\x7d\x7d\x7d")
    let refused : Content := .text "\x7b\"sap_app\": null\x7d"
    let source : Value := .obj [("settings", .obj [("odataVersion", .arr [.int 4])])]
    let v : Value := .obj [("sap.app", .null),
      ("sap_app", .obj [("dataSources", .obj [("d", source)])]),
      ("sap.ui5", .obj [("rootView", .obj [("viewName", .null)])])]
    let w : Value := .obj [("sap_app", .null)]
    accepted.readJson = .ok v ∧ (∃ m, Manifest.parse "manifest.json" accepted = .ok m) ∧
      refused.readJson = .ok w ∧
      ∃ fault, Manifest.parse "manifest.json" refused = .error (.invalid ⟨"manifest.json", fault⟩) ∧
        fault ≠ .notObject := by
  intro accepted refused source v w
  have hv : accepted.readJson = .ok v := by decide +kernel
  have hw : refused.readJson = .ok w := by decide +kernel
  obtain ⟨fault, hfault, hobject⟩ := (parse_accepts_shape hw "manifest.json").2 (by decide)
  exact ⟨hv, (parse_accepts_shape hv "manifest.json").1.mpr (by decide), hw, fault, hfault,
    fun hnot => hobject.mp hnot _ rfl⟩

end ManifestDeps
