/-
ManifestDeps.Proofs.UnreadFieldTheorems — what the resources of a manifest
do to an analysis, although no rule reads them.

The UI section may list `resources`, the URLs of styles and scripts. They
are no modules, and none of the rules looks at them. They are checked all
the same: to be an object, or null, or missing (`Manifest.ResourcesFit`).

`Manifest.setResources` sets the field in the section that the manifest is
read from, which stands under the main name or the second one, and is made
if there is none. The other fields of the section are found as before, so
that a check of the section is the check of what is read
(`UiSection.checkRead`) and of the resources. As long as the resources fit,
the manifests before and after are the same but for this one field
(`Manifest.checkMembers_setResources`), and so is all that is derived and
reported. Resources that do not fit have the whole manifest refused
(`analyze_refuses_resource_array`).
-/
import ManifestDeps.Json.Printer
import ManifestDeps.Proofs.ShapeTheorems

namespace ManifestDeps

open Json (Value setMember)

/-! ## §1 Setting a member -/

theorem Json.lookup_setMember (ms : List (String × Value)) (name k : String) (v : Value) :
    (setMember ms name v).lookup k = if k = name then some v else ms.lookup k := by
  induction ms with
  | nil => rw [setMember, Table.lookup_cons_eq_ite]
  | cons m rest ih =>
    obtain ⟨l, w⟩ := m
    by_cases hl : l = name
    · rw [setMember, if_pos hl, Table.lookup_cons_eq_ite, Table.lookup_cons_eq_ite, hl]
      split <;> rfl
    · rw [setMember, if_neg hl, Table.lookup_cons_eq_ite, Table.lookup_cons_eq_ite, ih]
      by_cases hk : k = l
      · rw [if_pos hk, if_neg (hk ▸ hl), if_pos hk]
      · rw [if_neg hk, if_neg hk]

/-- A field is not found in the place of another one. -/
theorem FieldName.find?_setMember_of_ne {f : FieldName} {name : String} (hmain : f.main ≠ name)
    (hsecond : f.second ≠ name) (ms : List (String × Value)) (v : Value) :
    f.find? (setMember ms name v) = f.find? ms := by
  rw [find?, find?, Json.lookup_setMember, Json.lookup_setMember, if_neg hmain, if_neg hsecond]

theorem Check.field_setMember_of_ne {α : Type} (check : Check α) {f : FieldName} {name : String}
    (hmain : f.main ≠ name) (hsecond : f.second ≠ name) (place : Place)
    (ms : List (String × Value)) (v : Value) :
    check.field f place (setMember ms name v) = check.field f place ms := by
  rw [field, field, FieldName.find?_setMember_of_ne hmain hsecond]

theorem Table.lookup_filter {α : Type} {t : Table α} (hd : DistinctNames t)
    (p : String × α → Bool) (name : String) :
    (t.filter p).lookup name = (t.lookup name).filter fun a => p (name, a) := by
  apply Option.ext
  intro a
  rw [lookup_eq_some_iff_mem (hd.filter p), List.mem_filter, Option.filter_eq_some_iff,
    lookup_eq_some_iff_mem hd]

/-! ## §2 The UI section without its resources -/

namespace UiSection

/-- The section without its resources. -/
def withoutResources (s : UiSection) : UiSection :=
  { s with resources := none }

/-- Check the fields that rules read. -/
def checkRead (place : Place) (us : List (String × Value)) :
    Checked (Option (Table Value) → UiSection) :=
  UiSection.mk
    <$> RootView.check.field ⟨"rootView", "root_view"⟩ place us
    <*> Declarations.check.field (.single "dependencies") place us
    <*> (Check.table (.nullable ComponentUsage.check)).field
          ⟨"componentUsages", "component_usages"⟩ place us
    <*> (Check.table (.nullable ModelConfig.check)).field (.single "models") place us
    <*> Routing.check.field (.single "routing") place us

/-- Check the resources. -/
def checkResources (place : Place) (us : List (String × Value)) :
    Checked (Option (Table Value)) :=
  (Check.table Check.any).field (.single "resources") place us

theorem check_obj (place : Place) (us : List (String × Value)) :
    check place (.obj us) = checkRead place us <*> checkResources place us := rfl

/-- What is read is the same with any resources. -/
theorem checkRead_setMember (place : Place) (us : List (String × Value)) (x : Value) :
    checkRead place (setMember us "resources" x) = checkRead place us := by
  unfold checkRead
  simp (disch := decide) only [Check.field_setMember_of_ne]

/-- What is read goes into a section whose resources are still open. -/
theorem withoutResources_of_checkRead {place : Place} {us : List (String × Value)}
    {section? : Option (Table Value) → UiSection} (h : checkRead place us = .ok section?)
    (r : Option (Table Value)) : (section? r).withoutResources = section? none := by
  obtain ⟨_, _, hmodels, -, rfl⟩ := Checked.seq_eq_ok_iff.mp h
  obtain ⟨_, _, husages, -, rfl⟩ := Checked.seq_eq_ok_iff.mp hmodels
  obtain ⟨_, _, hdeclared, -, rfl⟩ := Checked.seq_eq_ok_iff.mp husages
  obtain ⟨_, _, hroot, -, rfl⟩ := Checked.seq_eq_ok_iff.mp hdeclared
  obtain ⟨_, -, rfl⟩ := Checked.map_eq_ok_iff.mp hroot
  rfl

/-- A value that resources may have: an object or null. -/
def resourcesShape : Shape :=
  Shape.anything.mapping.orNull

theorem resourcesShape_iff {x : Value} :
    resourcesShape x = true ↔ x = .null ∨ ∃ rs, x = .obj rs := by
  cases x <;> simp [resourcesShape, Shape.orNull, Shape.mapping, Shape.anything]

/-- Resources that fit are read. -/
theorem exists_checkResources_eq_ok {us : List (String × Value)}
    (h : (us.lookup "resources").all resourcesShape = true) (place : Place) :
    ∃ r, checkResources place us = .ok r := by
  refine (Check.accepts_any.table.field (.single "resources") place us).mpr ?_
  rw [FieldName.value?, FieldName.single, Option.or_self]
  exact h

/-- Resources that do not fit are a fault of their own. -/
theorem checkResources_eq_fault {us : List (String × Value)} {x : Value}
    (hx : us.lookup "resources" = some x) (h : ¬ resourcesShape x = true) (place : Place) :
    checkResources place us = .fault .notMapping (place ++ [.key "resources"]) := by
  rw [checkResources, Check.field, FieldName.find?, FieldName.single, hx]
  rw [resourcesShape_iff, not_or, not_exists] at h
  cases x with
  | null => exact absurd rfl h.1
  | obj rs => exact absurd rfl (h.2 rs)
  | _ => rfl

/-- **Resources that fit do not show** in what is read of the section. -/
theorem map_check_of_fit {us : List (String × Value)}
    (h : (us.lookup "resources").all resourcesShape = true) (place : Place) :
    withoutResources <$> check place (.obj us) = (· none) <$> checkRead place us := by
  obtain ⟨r, hr⟩ := exists_checkResources_eq_ok h place
  rw [check_obj, hr]
  cases hread : checkRead place us with
  | ok s => exact congrArg Checked.ok (withoutResources_of_checkRead hread r)
  | faults fs => rfl

end UiSection

/-! ## §3 Setting the resources of a manifest -/

namespace Manifest

/-- The manifest without its resources. -/
def withoutResources (m : Manifest) : Manifest :=
  { m with ui := m.ui.withoutResources }

/-- No rule reads the resources. -/
theorem derivations_withoutResources (m : Manifest) :
    m.withoutResources.derivations = m.derivations := rfl

/-- The names of the UI section. -/
def uiField : FieldName :=
  ⟨"sap.ui5", "sap_ui5"⟩

/-- The members of the UI section, with the name that it is found under. A
missing section has no members, and one that is no object is none. -/
def uiMembers? (ms : List (String × Value)) : Option (String × List (String × Value)) :=
  match uiField.find? (withoutNullSections ms) with
  | none => some (uiField.main, [])
  | some (name, .obj us) => some (name, us)
  | some _ => none

/-- Set the resources in the UI section. -/
def setResources (ms : List (String × Value)) (x : Value) : List (String × Value) :=
  match uiMembers? ms with
  | some (name, us) => setMember ms name (.obj (setMember us "resources" x))
  | none => ms

/-- Set a field of the UI section. -/
def setUiMember (ms : List (String × Value)) (field : String) (x : Value) :
    List (String × Value) :=
  match uiMembers? ms with
  | some (name, us) => setMember ms name (.obj (setMember us field x))
  | none => ms

theorem setResources_eq (ms : List (String × Value)) (x : Value) :
    setResources ms x = setUiMember ms "resources" x := rfl

/-- The resources, where there are any, are an object or null. -/
def ResourcesFit (ms : List (String × Value)) : Prop :=
  ∀ u ∈ uiMembers? ms, (u.2.lookup "resources").all UiSection.resourcesShape = true

section

variable {ms us : List (String × Value)} {name : String}

/-- Leaving out null sections and setting a member that is none of them do
not get in each other's way. -/
theorem lookup_withoutNullSections_setMember (hd : Table.DistinctNames ms) (k : String) :
    (withoutNullSections (setMember ms name (.obj us))).lookup k =
      if k = name then some (.obj us) else (withoutNullSections ms).lookup k := by
  rw [withoutNullSections, withoutNullSections,
    Table.lookup_filter (Json.distinctNames_setMember hd), Table.lookup_filter hd,
    Json.lookup_setMember]
  by_cases hk : k = name
  · simp [hk]
  · simp [hk]

/-- The section is under its main name, or that name is missing. -/
theorem name_of_uiMembers? (h : uiMembers? ms = some (name, us)) :
    name = uiField.main ∨
      name = uiField.second ∧ (withoutNullSections ms).lookup uiField.main = none := by
  rw [uiMembers?, FieldName.find?] at h
  cases hmain : (withoutNullSections ms).lookup uiField.main with
  | some v =>
    rw [hmain] at h
    cases v with
    | obj _ => cases h; exact .inl rfl
    | _ => cases h
  | none =>
    rw [hmain] at h
    cases hsecond : (withoutNullSections ms).lookup uiField.second with
    | some v =>
      rw [hsecond] at h
      cases v with
      | obj _ => cases h; exact .inr ⟨rfl, rfl⟩
      | _ => cases h
    | none =>
      rw [hsecond] at h
      cases h
      exact .inl rfl

/-- The section that was set is the one that is found. -/
theorem find?_uiField_setMember (hd : Table.DistinctNames ms)
    (h : uiMembers? ms = some (name, us)) (us' : List (String × Value)) :
    uiField.find? (withoutNullSections (setMember ms name (.obj us'))) = some (name, .obj us') := by
  rw [FieldName.find?, lookup_withoutNullSections_setMember hd,
    lookup_withoutNullSections_setMember hd]
  rcases name_of_uiMembers? h with rfl | ⟨rfl, hmain⟩
  · rw [if_pos rfl]
  · rw [if_neg (by decide), hmain, if_pos rfl]
    rfl

theorem uiMembers?_setUiMember (hd : Table.DistinctNames ms)
    (h : uiMembers? ms = some (name, us)) (field : String) (x : Value) :
    uiMembers? (setUiMember ms field x) = some (name, setMember us field x) := by
  rw [setUiMember, h, uiMembers?, find?_uiField_setMember hd h]

/-- Without a section nothing is set. -/
theorem setUiMember_of_uiMembers?_eq_none (h : uiMembers? ms = none) (field : String)
    (x : Value) : setUiMember ms field x = ms := by
  rw [setUiMember, h]

/-- No other field of the manifest is touched. -/
theorem find?_setUiMember_of_ne (hd : Table.DistinctNames ms) {f : FieldName}
    (hmain : f.main ∉ [uiField.main, uiField.second])
    (hsecond : f.second ∉ [uiField.main, uiField.second]) (field : String) (x : Value) :
    f.find? (withoutNullSections (setUiMember ms field x)) =
      f.find? (withoutNullSections ms) := by
  cases hui : uiMembers? ms with
  | none => rw [setUiMember_of_uiMembers?_eq_none hui]
  | some u =>
    obtain ⟨name, us⟩ := u
    have hname : name ∈ [uiField.main, uiField.second] := by
      rcases name_of_uiMembers? hui with rfl | ⟨rfl, -⟩ <;> simp
    have hne : ∀ k, k ∉ [uiField.main, uiField.second] → k ≠ name := fun k hk he =>
      hk (he ▸ hname)
    simp only [setUiMember, hui, FieldName.find?, lookup_withoutNullSections_setMember hd,
      if_neg (hne _ hmain), if_neg (hne _ hsecond)]

/-- Checking a manifest is checking its two sections. -/
theorem checkMembers_eq_sections (ms : List (String × Value)) :
    checkMembers ms =
      Manifest.mk <$> AppSection.check.section {} ⟨"sap.app", "sap_app"⟩ (withoutNullSections ms)
        <*> UiSection.check.section {} uiField (withoutNullSections ms) := by
  rw [checkMembers, filter_isDroppedSection]
  rfl

/-- Checking a manifest whose UI section is found. -/
theorem checkMembers_of_uiMembers? (h : uiMembers? ms = some (name, us)) :
    checkMembers ms =
      Manifest.mk <$> AppSection.check.section {} ⟨"sap.app", "sap_app"⟩ (withoutNullSections ms)
        <*> UiSection.check [.key name] (.obj us) := by
  have hsection : UiSection.check.section {} uiField (withoutNullSections ms) =
      UiSection.check [.key name] (.obj us) := by
    rw [Check.section]
    rw [uiMembers?] at h
    cases hfind : uiField.find? (withoutNullSections ms) with
    | none =>
      rw [hfind] at h
      cases h
      rfl
    | some m =>
      obtain ⟨k, v⟩ := m
      rw [hfind] at h
      cases v with
      | obj _ => cases h; rfl
      | _ => cases h
  rw [checkMembers_eq_sections, hsection]

/-- Checking a manifest with a field of its UI section set. -/
theorem checkMembers_setUiMember (hd : Table.DistinctNames ms)
    (h : uiMembers? ms = some (name, us)) (field : String) (x : Value) :
    checkMembers (setUiMember ms field x) =
      Manifest.mk <$> AppSection.check.section {} ⟨"sap.app", "sap_app"⟩ (withoutNullSections ms)
        <*> UiSection.check [.key name] (.obj (setMember us field x)) := by
  rw [checkMembers_of_uiMembers? (uiMembers?_setUiMember hd h field x), Check.section,
    Check.section, find?_setUiMember_of_ne hd (by decide) (by decide)]

/-- A change to the UI section of a checked manifest is a change to the
checked section. -/
theorem map_ui (f : UiSection → UiSection) (app : Checked AppSection) (ui : Checked UiSection) :
    (fun m : Manifest => { m with ui := f m.ui }) <$> (Manifest.mk <$> app <*> ui) =
      Manifest.mk <$> app <*> (f <$> ui) := by
  cases app <;> cases ui <;> rfl

theorem map_withoutResources (app : Checked AppSection) (ui : Checked UiSection) :
    withoutResources <$> (Manifest.mk <$> app <*> ui) =
      Manifest.mk <$> app <*> (UiSection.withoutResources <$> ui) :=
  map_ui UiSection.withoutResources app ui

/-- **Resources that fit do not show**: the manifests that are read before
and after they are set are the same without them, and so are the faults
where no manifest is read. -/
theorem checkMembers_setResources (hd : Table.DistinctNames ms) (hfit : ResourcesFit ms)
    {x : Value} (hx : UiSection.resourcesShape x = true) :
    withoutResources <$> checkMembers (setResources ms x) =
      withoutResources <$> checkMembers ms := by
  rw [setResources_eq]
  cases hui : uiMembers? ms with
  | none => rw [setUiMember_of_uiMembers?_eq_none hui]
  | some u =>
    obtain ⟨name, us⟩ := u
    have hset : ((setMember us "resources" x).lookup "resources").all
        UiSection.resourcesShape = true := by
      rw [Json.lookup_setMember, if_pos rfl]
      exact hx
    rw [checkMembers_setUiMember hd hui, checkMembers_of_uiMembers? hui, map_withoutResources,
      map_withoutResources, UiSection.map_check_of_fit hset,
      UiSection.map_check_of_fit (hfit _ hui), UiSection.checkRead_setMember]

/-- Resources that do not fit are among the faults, at their place. -/
theorem exists_checkMembers_setResources_eq_faults (hd : Table.DistinctNames ms)
    (hui : uiMembers? ms = some (name, us)) {x : Value}
    (hx : ¬ UiSection.resourcesShape x = true) :
    ∃ fs, checkMembers (setResources ms x) = .faults fs ∧
      ⟨.notMapping, [.key name, .key "resources"]⟩ ∈ fs := by
  have hlookup : (setMember us "resources" x).lookup "resources" = some x := by
    rw [Json.lookup_setMember, if_pos rfl]
  rw [setResources_eq, checkMembers_setUiMember hd hui, UiSection.check_obj,
    UiSection.checkResources_eq_fault hlookup hx]
  -- faults of other fields, if any, stand in front
  cases AppSection.check.section {} ⟨"sap.app", "sap_app"⟩ (withoutNullSections ms) <;>
    cases UiSection.checkRead [.key name] (setMember us "resources" x) <;>
    exact ⟨_, rfl, by simp⟩

end

/-- What is read decides what is derived: manifests that are the same
without their resources are analyzed alike. -/
theorem derivations_eq_of_withoutResources {m n : Manifest}
    (h : m.withoutResources = n.withoutResources) : m.derivations = n.derivations := by
  rw [← derivations_withoutResources m, h, derivations_withoutResources]

end Manifest

/-! ## §4 Analyzing a manifest with other resources -/

section

variable {p q : Pool} {c : String} {bs cs : List UInt8} {ms : List (String × Value)} {x : Value}

theorem Json.distinctNames_of_readJson {content : Content}
    (h : content.readJson = .ok (.obj ms)) : Table.DistinctNames ms :=
  (Content.readJson_distinctNames h).members.1

theorem Manifest.parse_of_checkMembers {content : Content}
    (h : content.readJson = .ok (.obj ms)) (name : String) :
    Manifest.parse name content =
      match Manifest.checkMembers ms with
      | .ok m => .ok m
      | .faults fs => .error (.invalid ⟨name, .shape ⟨"AppDescriptor", fs⟩⟩) := by
  rw [Manifest.parse_of_readJson h, Manifest.ofJson]
  cases Manifest.checkMembers ms <;> rfl

/-- Descriptors are analyzed alike that hold manifests with the same view, or
are refused for the same faults, as long as the view decides what is
derived. -/
theorem analyze_eq_of_same_view {α : Type} {view : Manifest → α}
    (hview : ∀ M N, view M = view N → M.derivations = N.derivations)
    {ns : List (String × Value)} (hp : p.Reads c bs)
    (hq : q.Reads c cs) (hbs : (Content.bytes bs).readJson = .ok (.obj ms))
    (hcs : (Content.bytes cs).readJson = .ok (.obj ns))
    (h : view <$> Manifest.checkMembers ns = view <$> Manifest.checkMembers ms)
    (d : DependencySet) :
    ({ pool := q } : Analyzer).analyze c d = ({ pool := p } : Analyzer).analyze c d ∧
      ((∃ M, q.Holds c M) ↔ ∃ M, p.Holds c M) := by
  have hparse := Manifest.parse_of_checkMembers hbs (ModuleName.descriptorOf c)
  have hparse' := Manifest.parse_of_checkMembers hcs (ModuleName.descriptorOf c)
  cases hm : Manifest.checkMembers ms with
  | faults fs =>
    cases hn : Manifest.checkMembers ns with
    | ok N =>
      rw [hm, hn] at h
      cases h
    | faults gs =>
      rw [hm, hn] at h
      cases h
      rw [hm] at hparse
      rw [hn] at hparse'
      refine ⟨?_, iff_of_false (hq.not_holds hparse') (hp.not_holds hparse)⟩
      by_cases hc : c = ModuleName.baseComponent
      · rw [Analyzer.analyze_of_exempt hc, Analyzer.analyze_of_exempt hc]
      · rw [Analyzer.analyze_of_invalid hc hq hparse', Analyzer.analyze_of_invalid hc hp hparse]
  | ok M =>
    cases hn : Manifest.checkMembers ns with
    | faults gs =>
      rw [hm, hn] at h
      cases h
    | ok N =>
      rw [hm] at hparse
      rw [hn] at hparse'
      have hM : p.Holds c M := ⟨bs, hp, hparse⟩
      have hN : q.Holds c N := ⟨cs, hq, hparse'⟩
      refine ⟨?_, iff_of_true ⟨N, hN⟩ ⟨M, hM⟩⟩
      rw [hm, hn] at h
      by_cases hc : c = ModuleName.baseComponent
      · rw [Analyzer.analyze_of_exempt hc, Analyzer.analyze_of_exempt hc]
      · rw [Analyzer.analyze_of_holds rfl hc hN, Analyzer.analyze_of_holds rfl hc hM,
          hview N M (Checked.ok.inj h)]

/-- Descriptors that hold the same manifest without its resources, or are
refused for the same faults, are analyzed alike. -/
theorem analyze_eq_of_withoutResources {ns : List (String × Value)} (hp : p.Reads c bs)
    (hq : q.Reads c cs) (hbs : (Content.bytes bs).readJson = .ok (.obj ms))
    (hcs : (Content.bytes cs).readJson = .ok (.obj ns))
    (h : Manifest.withoutResources <$> Manifest.checkMembers ns =
      Manifest.withoutResources <$> Manifest.checkMembers ms) (d : DependencySet) :
    ({ pool := q } : Analyzer).analyze c d = ({ pool := p } : Analyzer).analyze c d ∧
      ((∃ M, q.Holds c M) ↔ ∃ M, p.Holds c M) :=
  analyze_eq_of_same_view (fun _ _ => Manifest.derivations_eq_of_withoutResources) hp hq hbs hcs h d

/-- **Resources count by their shape alone.** One pool holds a descriptor of
a component with the members `ms`, the other the same one with its resources
set to `x`. As long as the resources are an object or null, before and
after, the analysis comes out the same, from any dependencies: the same
dependencies in the same order, and the same reports; and the one descriptor
is a manifest just if the other is. Any other `x` makes the descriptor no
manifest. Then nothing is derived from it at all, and what is reported is
that its resources are no object. -/
theorem analyze_setResources (hp : p.Reads c bs) (hq : q.Reads c cs)
    (hbs : (Content.bytes bs).readJson = .ok (.obj ms))
    (hcs : (Content.bytes cs).readJson = .ok (.obj (Manifest.setResources ms x)))
    (d : DependencySet) :
    let before := ({ pool := p } : Analyzer).analyze c d
    let after := ({ pool := q } : Analyzer).analyze c d
    (Manifest.ResourcesFit ms → (x = .null ∨ ∃ rs, x = .obj rs) →
      after = before ∧ ((∃ M, q.Holds c M) ↔ ∃ M, p.Holds c M)) ∧
    (∀ u ∈ Manifest.uiMembers? ms, ¬ (x = .null ∨ ∃ rs, x = .obj rs) →
      (¬ ∃ M, q.Holds c M) ∧
        ∃ fs, ⟨.notMapping, [.key u.1, .key "resources"]⟩ ∈ fs ∧
          (c ≠ ModuleName.baseComponent → after = ⟨d, [parseErrorReport c
            (ModuleName.descriptorOf c) (.shape ⟨"AppDescriptor", fs⟩)]⟩)) := by
  intro before after
  have hd := Json.distinctNames_of_readJson hbs
  rw [← UiSection.resourcesShape_iff]
  constructor
  · intro hfit hx
    exact analyze_eq_of_withoutResources hp hq hbs hcs
      (Manifest.checkMembers_setResources hd hfit hx) d
  · intro u hu hx
    obtain ⟨fs, hcheck, hmem⟩ :=
      Manifest.exists_checkMembers_setResources_eq_faults hd hu hx
    have hparse := Manifest.parse_of_checkMembers hcs (ModuleName.descriptorOf c)
    rw [hcheck] at hparse
    exact ⟨hq.not_holds hparse, fs, hmem, fun hc => Analyzer.analyze_of_invalid hc hq hparse d⟩

/-- A manifest of one library, as it is and with null for resources. -/
theorem analyze_setResources_null :
    let ms : List (String × Value) :=
      [("sap.ui5", .obj [("dependencies", .obj [("libs", .obj [("a", .null)])])])]
    let analyzer (v : Value) : Analyzer :=
      { pool := .ofTable [("demo/manifest.json", .text (Json.print v))] }
    (analyzer (.obj (Manifest.setResources ms .null))).analyze "demo/Component.js" .empty =
      (analyzer (.obj ms)).analyze "demo/Component.js" .empty := by
  intro ms analyzer
  have hreads (v : Value) : (analyzer v).pool.Reads "demo/Component.js"
      (Content.text (Json.print v)).toBytes := ⟨_, rfl, rfl⟩
  have hfit : Manifest.ResourcesFit ms := by
    intro u hu
    cases hu
    rfl
  exact ((analyze_setResources (hreads (.obj ms)) (hreads (.obj (Manifest.setResources ms .null)))
    (by decide +kernel) (by decide +kernel) .empty).1 hfit (.inl rfl)).1

/-- With an empty array for resources, which no rule reads, the library of
the same manifest is lost. -/
theorem analyze_refuses_resource_array :
    let ms : List (String × Value) :=
      [("sap.ui5", .obj [("dependencies", .obj [("libs", .obj [("a", .null)])])])]
    let analyzer (v : Value) : Analyzer :=
      { pool := .ofTable [("demo/manifest.json", .text (Json.print v))] }
    let before := (analyzer (.obj ms)).analyze "demo/Component.js" .empty
    let after := (analyzer (.obj (Manifest.setResources ms (.arr [])))).analyze
      "demo/Component.js" .empty
    before.dependencies.sorted = [("a/library.js", .required)] ∧
      before.codes = [.dependencyAdded] ∧
      after.dependencies.sorted = [] ∧
      after.codes = [.manifestParseError] := by
  decide +kernel

end

end ManifestDeps
