/-
ManifestDeps.Proofs.RootViewTheorems — three ways to write one root view.

A root view of a name can be given in three forms (`RootViewForm`): the name
alone, an object with the name and the type of an XML view, and an object
with the name and no type. `Manifest.setUiMember` writes any of them into
the members of a manifest.

A manifest is read the same in all three forms, up to the root view in it
(`Manifest.checkMembers_setRootView`), and the rules other than the first do
not look there (`Manifest.derivations_withRootView`). So all comes down to
what the first rule finds (`rootViewFindings_withRootView`). The two objects
always find the same. The name alone does as well, as long as it is not
empty. An empty name is passed over in silence where it stands alone, and
reported as missing in an object (`short_form_of_empty_name_is_silent`).
-/
import ManifestDeps.Proofs.EditTheorems

namespace ManifestDeps

open Json (Value setMember)

/-! ## §1 The forms of a root view -/

/-- The forms in which the name of a root view is given. -/
inductive RootViewForm where
  /-- The name alone, which is short for an XML view. -/
  | short
  /-- An object with the name and the type of an XML view. -/
  | typed
  /-- An object with the name alone. -/
  | untyped
  deriving DecidableEq

namespace RootViewForm

/-- A form as it stands in a manifest. -/
def value (f : RootViewForm) (name : String) : Value :=
  match f with
  | short => .str name
  | typed => .obj [("viewName", .str name), ("type", .str "XML")]
  | untyped => .obj [("viewName", .str name)]

/-- A form as it is read. -/
def view (f : RootViewForm) (name : String) : RootView :=
  match f with
  | short => .named name
  | typed => .options { viewName := some name, type := some "XML" }
  | untyped => .options { viewName := some name }

theorem check_value (f : RootViewForm) (name : String) (place : Place) :
    RootView.check.nullable place (f.value name) = .ok (some (f.view name)) := by
  cases f <;> rfl

end RootViewForm

/-! ## §2 Setting the root view of a manifest -/

theorem Checked.map_seq {α β γ : Type} (g : β → γ) (f : Checked (α → β)) (x : Checked α) :
    g <$> (f <*> x) = (g ∘ ·) <$> f <*> x := by
  cases f <;> cases x <;> rfl

namespace UiSection

/-- The section with another root view. -/
def withRootView (s : UiSection) (r : Option RootView) : UiSection :=
  { s with rootView := r }

/-- A root view that fits is read, and leaves the other fields as they are. -/
theorem check_setRootView {v : Value} {r : Option RootView}
    (hv : ∀ place, RootView.check.nullable place v = .ok r) (place : Place)
    (us : List (String × Value)) :
    check place (.obj (setMember us "rootView" v)) =
      (withRootView · r) <$> check place (.obj (setMember us "rootView" .null)) := by
  have hroot : ∀ w, RootView.check.field ⟨"rootView", "root_view"⟩ place
      (setMember us "rootView" w) =
        RootView.check.nullable (place ++ [.key "rootView"]) w := by
    intro w
    rw [Check.field, FieldName.find?, Json.lookup_setMember, if_pos rfl]
  rw [check_obj, check_obj, checkRead, checkRead, checkResources, checkResources, hroot, hroot, hv]
  -- the change is carried to the front, where the root view is read
  simp (disch := decide) only [Check.field_setMember_of_ne, Checked.map_seq]
  rfl

end UiSection

namespace Manifest

variable {ms : List (String × Value)}

/-- The manifest with another root view. -/
def withRootView (m : Manifest) (r : Option RootView) : Manifest :=
  { m with ui := m.ui.withRootView r }

/-- A UI section that is no object is refused. -/
theorem exists_checkMembers_eq_faults (h : uiMembers? ms = none) :
    ∃ fs, checkMembers ms = .faults fs := by
  have hsection : ∃ fs, UiSection.check.section {} uiField (withoutNullSections ms) =
      .faults fs := by
    rw [uiMembers?] at h
    rw [Check.section]
    cases hfind : uiField.find? (withoutNullSections ms) with
    | none =>
      rw [hfind] at h
      cases h
    | some m =>
      obtain ⟨k, v⟩ := m
      rw [hfind] at h
      cases v with
      | obj _ => cases h
      | _ => exact ⟨_, rfl⟩
  obtain ⟨fs, hfs⟩ := hsection
  rw [checkMembers_eq_sections, hfs]
  cases AppSection.check.section {} ⟨"sap.app", "sap_app"⟩ (withoutNullSections ms) <;>
    exact ⟨_, rfl⟩

/-- **A root view that fits is all that changes** in the manifest that is
read when it is set. -/
theorem checkMembers_setRootView (hd : Table.DistinctNames ms) {v : Value} {r : Option RootView}
    (hv : ∀ place, RootView.check.nullable place v = .ok r) :
    checkMembers (setUiMember ms "rootView" v) =
      (withRootView · r) <$> checkMembers (setUiMember ms "rootView" .null) := by
  cases hui : uiMembers? ms with
  | none =>
    obtain ⟨fs, hfs⟩ := exists_checkMembers_eq_faults hui
    rw [setUiMember_of_uiMembers?_eq_none hui, setUiMember_of_uiMembers?_eq_none hui, hfs,
      Checked.map_faults]
  | some u =>
    obtain ⟨name, us⟩ := u
    rw [checkMembers_setUiMember hd hui, checkMembers_setUiMember hd hui,
      UiSection.check_setRootView hv]
    exact (map_ui (UiSection.withRootView · r) _ _).symm

/-- Only the first rule looks at the root view. -/
theorem derivations_withRootView (m : Manifest) (r : Option RootView) :
    (m.withRootView r).derivations = rootViewRule (m.withRootView r) :: m.derivations.tail := rfl

end Manifest

/-! ## §3 What the first rule finds -/

section

variable (M : Manifest) (f : RootViewForm) (name : String)

/-- The type of an XML view is the one that is meant without a type. -/
theorem ViewOptions.finding_of_defaultViewType (viewName : Option String) :
    ({ viewName := viewName, type := some defaultViewType } : ViewOptions).finding =
      ({ viewName := viewName } : ViewOptions).finding := rfl

/-- Every form finds the view of its name, but for an empty name alone,
which finds nothing. -/
theorem rootViewFindings_withRootView :
    rootViewFindings (M.withRootView (some (f.view name))) =
      if f = .short ∧ name = "" then []
      else [({ viewName := some name } : ViewOptions).finding] := by
  cases f with
  | short =>
    by_cases hname : name = ""
    · rw [if_pos ⟨rfl, hname⟩, hname]
      rfl
    · rw [if_neg fun h => hname h.2, ← ViewOptions.finding_of_defaultViewType]
      exact if_neg hname
  | typed =>
    rw [if_neg (by simp), ← ViewOptions.finding_of_defaultViewType]
    rfl
  | untyped =>
    rw [if_neg (by simp)]
    rfl

/-- Forms that are alike on empty names derive the same. -/
theorem rootViewRule_withRootView_eq {f g : RootViewForm}
    (h : name = "" → (f = .short ↔ g = .short)) :
    rootViewRule (M.withRootView (some (f.view name))) =
      rootViewRule (M.withRootView (some (g.view name))) := by
  have hcond : (f = .short ∧ name = "") ↔ (g = .short ∧ name = "") := by
    constructor
    · exact fun hf => ⟨(h hf.2).mp hf.1, hf.2⟩
    · exact fun hg => ⟨(h hg.2).mpr hg.1, hg.2⟩
  simp only [rootViewRule, rootViewFindings_withRootView, hcond]

/-- The name alone derives what the objects do just if it is not empty. -/
theorem rootViewRule_short_eq_untyped_iff :
    rootViewRule (M.withRootView (some (RootViewForm.short.view name))) =
      rootViewRule (M.withRootView (some (RootViewForm.untyped.view name))) ↔ name ≠ "" := by
  constructor
  · rintro h rfl
    -- one warning is on the right only
    cases congrArg Derivation.diagnostics h
  · exact fun hname => rootViewRule_withRootView_eq M name fun h => absurd h hname

/-- What is derived for the object with an empty name is what is derived for
the empty name alone, and a warning in front. -/
theorem addDerived_untyped_empty (c : String) (d : DependencySet) :
    let outcome (f : RootViewForm) :=
      addDerived (some c) d (M.withRootView (some (f.view ""))).derivations
    outcome .untyped = ⟨(outcome .short).dependencies,
      (warning rootViewRuleName .rootViewNameMissing []).forComponent c ::
        (outcome .short).reports⟩ := rfl

end

/-! ## §4 Analyzing a manifest in each form -/

section

variable {c : String}

/-- What a component holds is what its members are checked to. -/
theorem Pool.Reads.holds_iff {pool : Pool} {bs : List UInt8} {ms : List (String × Value)}
    (h : pool.Reads c bs) (hbs : (Content.bytes bs).readJson = .ok (.obj ms)) {M : Manifest} :
    pool.Holds c M ↔ Manifest.checkMembers ms = .ok M := by
  constructor
  · rintro ⟨bs', h', hM⟩
    rw [← h.unique h'] at hM
    exact Manifest.checkMembers_of_parse hbs hM
  · intro hM
    refine ⟨bs, h, ?_⟩
    rw [Manifest.parse_of_checkMembers hbs, hM]

variable {pool : RootViewForm → Pool} {bytes : RootViewForm → List UInt8}
  {ms : List (String × Value)} {name : String}

/-- **The forms of a root view say the same, but for an empty name alone.**
Each pool holds the descriptor of a component with the members `ms`, the root
view given in one of the forms. The forms are read as the same manifest, each
with its own root view, or refused together. On every manifest the rule
derives the same from the two objects, and the same from the name alone just
if it is not empty. So the analyses come out the same: the same dependencies
in the same order, and the same reports.

The empty name alone has the same dependencies. What it lacks is the warning
of the other forms that the root view has no name. -/
theorem analyze_setRootView (hd : Table.DistinctNames ms)
    (hreads : ∀ f, (pool f).Reads c (bytes f))
    (hbytes : ∀ f, (Content.bytes (bytes f)).readJson =
      .ok (.obj (Manifest.setUiMember ms "rootView" (f.value name)))) (d : DependencySet) :
    let rule (M : Manifest) (f : RootViewForm) :=
      rootViewRule (M.withRootView (some (f.view name)))
    let outcome (f : RootViewForm) := ({ pool := pool f } : Analyzer).analyze c d
    (∀ M, rule M .typed = rule M .untyped ∧ (rule M .short = rule M .untyped ↔ name ≠ "")) ∧
    (∀ f M, (pool f).Holds c M → M.ui.rootView = some (f.view name) ∧
      ∀ g, (pool g).Holds c (M.withRootView (some (g.view name)))) ∧
    outcome .typed = outcome .untyped ∧
    (name ≠ "" → outcome .short = outcome .untyped) ∧
    (name = "" → c ≠ ModuleName.baseComponent → (∃ M, (pool .short).Holds c M) →
      outcome .untyped = ⟨(outcome .short).dependencies,
        (warning rootViewRuleName .rootViewNameMissing []).forComponent c ::
          (outcome .short).reports⟩) := by
  intro rule outcome
  -- what all forms are read from, up to the root view
  have hcheck (f : RootViewForm) :=
    Manifest.checkMembers_setRootView hd (v := f.value name) fun place => f.check_value name place
  have hrule : ∀ M {f g}, (name = "" → (f = .short ↔ g = .short)) → rule M f = rule M g :=
    fun M _ _ h => rootViewRule_withRootView_eq M name h
  have hsame : ∀ {f g : RootViewForm}, (name = "" → (f = .short ↔ g = .short)) →
      outcome f = outcome g := by
    intro f g h
    have hview : Manifest.derivations <$>
        Manifest.checkMembers (Manifest.setUiMember ms "rootView" (f.value name)) =
        Manifest.derivations <$>
          Manifest.checkMembers (Manifest.setUiMember ms "rootView" (g.value name)) := by
      rw [hcheck f, hcheck g]
      cases Manifest.checkMembers (Manifest.setUiMember ms "rootView" .null) with
      | faults fs => rfl
      | ok N =>
        have hderived : (N.withRootView (some (f.view name))).derivations =
            (N.withRootView (some (g.view name))).derivations := by
          rw [Manifest.derivations_withRootView, Manifest.derivations_withRootView,
            rootViewRule_withRootView_eq N name h]
        exact congrArg Checked.ok hderived
    exact (analyze_eq_of_same_view (fun _ _ h => h) (hreads g) (hreads f) (hbytes g) (hbytes f)
      hview d).1
  have hholds : ∀ f M, (pool f).Holds c M → M.ui.rootView = some (f.view name) ∧
      ∀ g, (pool g).Holds c (M.withRootView (some (g.view name))) := by
    intro f M hM
    rw [(hreads f).holds_iff (hbytes f), hcheck f] at hM
    obtain ⟨N, hN, rfl⟩ := Checked.map_eq_ok_iff.mp hM
    refine ⟨rfl, fun g => ?_⟩
    rw [(hreads g).holds_iff (hbytes g), hcheck g, hN]
    rfl
  refine ⟨fun M => ⟨hrule M (by simp), rootViewRule_short_eq_untyped_iff M name⟩, hholds,
    hsame (by simp), fun hname => hsame fun h => absurd h hname, ?_⟩
  rintro rfl hc ⟨M, hM⟩
  have hforms (f : RootViewForm) : outcome f =
      addDerived (some c) d (M.withRootView (some (f.view ""))).derivations :=
    Analyzer.analyze_of_holds rfl hc ((hholds .short M hM).2 f) d
  rw [hforms, hforms]
  exact addDerived_untyped_empty M c d

/-- A manifest of nothing but its root view, in each of the forms. -/
theorem analyze_setRootView_named :
    let analyzer (f : RootViewForm) : Analyzer :=
      { pool := .ofTable [("demo/manifest.json", .text (Json.print
          (.obj (Manifest.setUiMember [] "rootView" (f.value "V")))))] }
    (analyzer .typed).analyze "demo/Component.js" .empty =
        (analyzer .untyped).analyze "demo/Component.js" .empty ∧
      (analyzer .short).analyze "demo/Component.js" .empty =
        (analyzer .untyped).analyze "demo/Component.js" .empty := by
  intro analyzer
  let bytes (f : RootViewForm) : List UInt8 :=
    (Content.text (Json.print (.obj (Manifest.setUiMember [] "rootView" (f.value "V"))))).toBytes
  have hd : Table.DistinctNames ([] : List (String × Value)) := List.nodup_nil
  have hreads : ∀ f, (analyzer f).pool.Reads "demo/Component.js" (bytes f) :=
    fun f => ⟨_, rfl, rfl⟩
  have hbytes : ∀ f, (Content.bytes (bytes f)).readJson =
      .ok (.obj (Manifest.setUiMember [] "rootView" (f.value "V"))) := by
    intro f
    cases f <;> decide +kernel
  have h := analyze_setRootView hd hreads hbytes .empty
  exact ⟨h.2.2.1, h.2.2.2.1 (by decide)⟩

/-- **An empty name alone is passed over in silence**, while both objects
with it have it reported. -/
theorem short_form_of_empty_name_is_silent :
    let outcome (f : RootViewForm) :=
      ({ pool := .ofTable [("demo/manifest.json", .text (Json.print
          (.obj (Manifest.setUiMember [] "rootView" (f.value "")))))] } : Analyzer).analyze
        "demo/Component.js" .empty
    (outcome .short).codes = [] ∧
      (outcome .typed).codes = [.rootViewNameMissing] ∧
      (outcome .untyped).codes = [.rootViewNameMissing] := by
  decide +kernel

end

end ManifestDeps
