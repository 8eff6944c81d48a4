/-
ManifestDeps.Proofs.RecordTheorems — objects whose fields agree pass alike.

The check of an object reads its fields and nothing else. Two values in the
place of a field agree if their checks see the same of them, or find the
same faults (`FieldKind.Agrees`). From the fields this is carried to the
object around them: there is one case for each kind of object, whose check
is rewritten field by field (`RecordKind.agrees_of_fields`).
-/
import ManifestDeps.Proofs.ViewTheorems

namespace ManifestDeps

open Json (Value setMember)

/-! ## §1 Values that agree -/

namespace Checked

variable {α β γ : Type}

@[simp] theorem id_map (x : Checked α) : id <$> x = x := by
  cases x <;> rfl

theorem comp_map (f : α → β) (g : β → γ) (x : Checked α) : g <$> f <$> x = (g ∘ f) <$> x := by
  cases x <;> rfl

end Checked

namespace Check

variable {α β : Type} {c : Check α} {view : α → β} {u v w : Value}

/-- Two values pass a check alike, wherever they stand: with results that
are seen as the same, or with the same faults. Both are null, or neither. -/
structure Agrees (c : Check α) (view : α → β) (v w : Value) : Prop where
  null_iff : v = .null ↔ w = .null
  check_eq : ∀ place, view <$> c place v = view <$> c place w

namespace Agrees

theorem refl (v : Value) : c.Agrees view v v :=
  ⟨.rfl, fun _ => rfl⟩

theorem symm (h : c.Agrees view v w) : c.Agrees view w v :=
  ⟨h.null_iff.symm, fun place => (h.check_eq place).symm⟩

theorem trans (h : c.Agrees view u v) (h' : c.Agrees view v w) : c.Agrees view u w :=
  ⟨h.null_iff.trans h'.null_iff, fun place => (h.check_eq place).trans (h'.check_eq place)⟩

/-- Objects are compared by their members. -/
theorem of_obj {ms ns : List (String × Value)}
    (h : ∀ place, view <$> c place (.obj ms) = view <$> c place (.obj ns)) :
    c.Agrees view (.obj ms) (.obj ns) :=
  ⟨by simp, h⟩

end Agrees

theorem map_members_cons (place : Place) (key : String) (v : Value)
    (rest : List (String × Value)) :
    List.map (Prod.map id view) <$> c.members place ((key, v) :: rest) =
      (fun b bs => (key, b) :: bs) <$> (view <$> c (place ++ [.key key]) v) <*>
        (List.map (Prod.map id view) <$> c.members place rest) := by
  rw [members]
  cases c (place ++ [.key key]) v <;> cases c.members place rest <;> rfl

/-- One entry of a table is replaced by another one. -/
theorem members_setMember {key : String} (h : ∀ place, view <$> c place v = view <$> c place w)
    {ts : List (String × Value)} (hl : ts.lookup key = some v) (place : Place) :
    List.map (Prod.map id view) <$> c.members place ts =
      List.map (Prod.map id view) <$> c.members place (setMember ts key w) := by
  induction ts with
  | nil => cases hl
  | cons e rest ih =>
    obtain ⟨k, u⟩ := e
    rw [Table.lookup_cons_eq_ite] at hl
    by_cases hk : key = k
    · subst hk
      rw [if_pos rfl] at hl
      cases hl
      rw [setMember, if_pos rfl, map_members_cons, map_members_cons, h]
    · rw [if_neg hk] at hl
      rw [setMember, if_neg (Ne.symm hk), map_members_cons, map_members_cons, ih hl]

end Check

/-- Values in a place agree: what the check of the place sees of them is
the same. -/
def FieldKind.Agrees (p : Precision) : FieldKind → Value → Value → Prop
  | plain, v, w => v = w
  | collection, v, w =>
    Routes.check.Agrees p.routes v w ∧ (Check.table Check.any).Agrees p.resources v w
  | record k, v, w => k.check.Agrees (k.view p) v w
  | table k nullable, v, w =>
    (Check.table (k.entryCheck nullable)).Agrees (List.map (Prod.map id (k.entryView p nullable)))
      v w

namespace FieldKind.Agrees

variable {p : Precision} {c : FieldKind} {u v w : Value}

theorem refl (v : Value) : c.Agrees p v v := by
  cases c with
  | plain => rfl
  | collection => exact ⟨.refl v, .refl v⟩
  | record k => exact .refl v
  | table k nullable => exact .refl v

theorem symm (h : c.Agrees p v w) : c.Agrees p w v := by
  cases c with
  | plain => exact Eq.symm h
  | collection => exact ⟨h.1.symm, h.2.symm⟩
  | record k => exact Check.Agrees.symm h
  | table k nullable => exact Check.Agrees.symm h

theorem trans (h : c.Agrees p u v) (h' : c.Agrees p v w) : c.Agrees p u w := by
  cases c with
  | plain => exact Eq.trans h h'
  | collection => exact ⟨h.1.trans h'.1, h.2.trans h'.2⟩
  | record k => exact Check.Agrees.trans h h'
  | table k nullable => exact Check.Agrees.trans h h'

theorem null_iff (h : c.Agrees p v w) : v = .null ↔ w = .null := by
  cases c with
  | plain => rw [show v = w from h]
  | collection => exact h.1.null_iff
  | record k => exact Check.Agrees.null_iff h
  | table k nullable => exact Check.Agrees.null_iff h

end FieldKind.Agrees

/-! ## §2 Objects whose fields agree -/

/-- The member that a field is read from; a null is as good as none. -/
def FieldName.present? (f : FieldName) (ms : List (String × Value)) : Option (String × Value) :=
  (f.find? ms).filter fun m => m.2 ≠ .null

/-- The member of an object that a field is read from. In a manifest, a
null leaves out the main name only, and the second name may take its
place. -/
def RecordKind.read? (k : RecordKind) (f : FieldName) (ms : List (String × Value)) :
    Option (String × Value) :=
  match k with
  | manifest => f.find? (withoutNullSections ms)
  | _ => f.present? ms

/-- Both are missing, or both are there under the same name and agree. -/
def FieldKind.ReadsAgree (p : Precision) (c : FieldKind) :
    Option (String × Value) → Option (String × Value) → Prop :=
  Option.Rel fun m n => m.1 = n.1 ∧ c.Agrees p m.2 n.2

theorem FieldKind.ReadsAgree.refl {p : Precision} {c : FieldKind}
    (o : Option (String × Value)) : c.ReadsAgree p o o := by
  cases o with
  | none => exact .none
  | some m => exact .some ⟨rfl, .refl m.2⟩

/-- What is read as a whole agrees only with itself. -/
theorem FieldKind.ReadsAgree.plain_eq {p : Precision} {a b : Option (String × Value)}
    (h : FieldKind.plain.ReadsAgree p a b) : a = b := by
  cases h with
  | none => rfl
  | some hmn => exact congrArg some (Prod.ext hmn.1 hmn.2)

/-- What is read for each field of two objects agrees. -/
def RecordKind.FieldsAgree (p : Precision) (k : RecordKind) (ms ns : List (String × Value)) :
    Prop :=
  ∀ e ∈ k.fields, e.2.ReadsAgree p (k.read? e.1 ms) (k.read? e.1 ns)

section Fields

variable {α β : Type} {p : Precision} {c : Check α} {view : α → β} {kind : FieldKind}
  {f : FieldName} {ms ns : List (String × Value)}

/-- Check what is read for a field, if it is there. -/
def Check.atRead (c : Check α) (missing : α) (place : Place) :
    Option (String × Value) → Checked α
  | none => .ok missing
  | some (name, v) => c (place ++ [.key name]) v

/-- **What agrees is seen as the same**, or has the same faults. -/
theorem Check.atRead_congr {a b : Option (String × Value)} (h : kind.ReadsAgree p a b)
    (hc : ∀ v w, kind.Agrees p v w → ∀ place, view <$> c place v = view <$> c place w)
    (missing : α) (place : Place) :
    view <$> c.atRead missing place a = view <$> c.atRead missing place b := by
  cases h with
  | none => rfl
  | @some m n hmn =>
    obtain ⟨name, v⟩ := m
    obtain ⟨name', w⟩ := n
    obtain ⟨rfl, hvw⟩ := hmn
    exact hc v w hvw _

/-- A field is checked by what is present of it. -/
theorem Check.field_eq_atRead (c : Check α) (f : FieldName) (place : Place)
    (ms : List (String × Value)) :
    c.field f place ms =
      Check.atRead (fun place v => some <$> c place v) none place (f.present? ms) := by
  rw [Check.field, FieldName.present?]
  cases f.find? ms with
  | none => rfl
  | some m =>
    obtain ⟨name, v⟩ := m
    by_cases hv : v = .null
    · subst hv
      rfl
    · simp only [Option.filter_some, decide_eq_true hv, ite_true]
      exact Check.nullable_of_ne_null hv _

/-- A field of two objects is seen as the same, or has the same faults. -/
def Check.SameField (c : Check α) (view : α → β) (f : FieldName)
    (ms ns : List (String × Value)) : Prop :=
  ∀ place, Option.map view <$> c.field f place ms = Option.map view <$> c.field f place ns

theorem Check.sameField (h : kind.ReadsAgree p (f.present? ms) (f.present? ns))
    (hc : ∀ v w, kind.Agrees p v w → c.Agrees view v w) : c.SameField view f ms ns := by
  intro place
  rw [field_eq_atRead, field_eq_atRead]
  refine atRead_congr h (fun v w hvw place => ?_) none place
  have hsome : Option.map view ∘ some = some ∘ view := rfl
  rw [Checked.comp_map, Checked.comp_map, hsome, ← Checked.comp_map, ← Checked.comp_map,
    (hc v w hvw).check_eq]

/-- A field that is seen as it is. -/
theorem Check.SameField.eq (h : c.SameField id f ms ns) (place : Place) :
    c.field f place ms = c.field f place ns := by
  have hmap := h place
  rwa [Option.map_id, Checked.id_map, Checked.id_map] at hmap

/-- A value that is read as a whole passes every check alike. -/
theorem Check.plain_eq (c : Check α)
    (h : FieldKind.plain.ReadsAgree p (f.present? ms) (f.present? ns)) (place : Place) :
    c.field f place ms = c.field f place ns := by
  rw [field_eq_atRead, field_eq_atRead, h.plain_eq]

/-- What is seen of a table whose entries may be null. -/
theorem RecordKind.map_entryView {k : RecordKind} (hview : k.view p = id) :
    List.map (Prod.map id (k.entryView p true)) = p.entries k.empty := by
  have hentry : k.entryView p true = p.entry k.empty := by
    funext o
    show (p.entry k.empty o).map (k.view p) = p.entry k.empty o
    rw [hview, Option.map_id, id]
  rw [hentry]
  rfl

/-- Tables of objects that are seen as they are. -/
theorem RecordKind.sameTable {k : RecordKind} (hview : k.view p = id)
    (h : (FieldKind.table k true).ReadsAgree p (f.present? ms) (f.present? ns)) :
    (Check.table (.nullable k.check)).SameField (p.entries k.empty) f ms ns := by
  rw [← map_entryView hview]
  exact Check.sameField h fun _ _ hvw => hvw

end Fields

/-! ### One case for each kind -/

section Records

variable {p : Precision} {ms ns : List (String × Value)}

theorem DataSourceSettings.agrees_of_fields (h : RecordKind.sourceSettings.FieldsAgree p ms ns) :
    check.Agrees id (.obj ms) (.obj ns) := by
  have hversion := Check.any.plain_eq (h (⟨"odataVersion", "odata_version"⟩, .plain) (by decide))
  exact .of_obj fun place => by simp only [check, Check.record, hversion]

theorem DataSource.agrees_of_fields (h : RecordKind.source.FieldsAgree p ms ns) :
    check.Agrees id (.obj ms) (.obj ns) := by
  have htype := Check.text.plain_eq (h (.single "type", .plain) (by decide))
  have hsettings : DataSourceSettings.check.SameField id (.single "settings") ms ns :=
    Check.sameField (h (.single "settings", .record .sourceSettings) (by decide))
      fun _ _ hvw => hvw
  exact .of_obj fun place => by simp only [check, Check.record, htype, hsettings.eq]

theorem AppSection.agrees_of_fields (h : RecordKind.app.FieldsAgree p ms ns) :
    check.Agrees id (.obj ms) (.obj ns) := by
  have hsources : (Check.table DataSource.check).SameField (List.map (Prod.map id id))
      ⟨"dataSources", "data_sources"⟩ ms ns :=
    Check.sameField (h (⟨"dataSources", "data_sources"⟩, .table .source false) (by decide))
      fun _ _ hvw => hvw
  rw [Prod.map_id, List.map_id_fun] at hsources
  exact .of_obj fun place => by simp only [check, Check.record, hsources.eq]

theorem RootView.agrees_of_fields (h : RecordKind.rootView.FieldsAgree p ms ns) :
    check.Agrees id (.obj ms) (.obj ns) := by
  have hname := Check.text.plain_eq (h (⟨"viewName", "view_name"⟩, .plain) (by decide))
  have htype := Check.text.plain_eq (h (.single "type", .plain) (by decide))
  exact .of_obj fun place => by
    simp only [check, ViewOptions.check, Check.record, hname, htype]

theorem ComponentUsage.agrees_of_fields (h : RecordKind.usage.FieldsAgree p ms ns) :
    check.Agrees id (.obj ms) (.obj ns) := by
  have hname := Check.text.plain_eq (h (.single "name", .plain) (by decide))
  have hlazy := Check.switch.plain_eq (h (.single "lazy", .plain) (by decide))
  exact .of_obj fun place => by simp only [check, Check.record, hname, hlazy]

theorem ModelConfig.agrees_of_fields (h : RecordKind.model.FieldsAgree p ms ns) :
    check.Agrees id (.obj ms) (.obj ns) := by
  have htype := Check.text.plain_eq (h (.single "type", .plain) (by decide))
  have hsource := Check.text.plain_eq (h (⟨"dataSource", "data_source"⟩, .plain) (by decide))
  exact .of_obj fun place => by simp only [check, Check.record, htype, hsource]

theorem RoutingDefaults.agrees_of_fields (h : RecordKind.routingDefaults.FieldsAgree p ms ns) :
    check.Agrees id (.obj ms) (.obj ns) := by
  have hrouter := Check.text.plain_eq (h (⟨"routerClass", "router_class"⟩, .plain) (by decide))
  have htargets := Check.text.plain_eq (h (⟨"targetsClass", "targets_class"⟩, .plain) (by decide))
  have hpath := Check.text.plain_eq (h (⟨"viewPath", "view_path"⟩, .plain) (by decide))
  have hname := Check.text.plain_eq (h (⟨"viewName", "view_name"⟩, .plain) (by decide))
  have htype := Check.text.plain_eq (h (⟨"viewType", "view_type"⟩, .plain) (by decide))
  exact .of_obj fun place => by
    simp only [check, Check.record, hrouter, htargets, hpath, hname, htype]

theorem RoutingTarget.agrees_of_fields (h : RecordKind.target.FieldsAgree p ms ns) :
    check.Agrees id (.obj ms) (.obj ns) := by
  have hpath := Check.text.plain_eq (h (⟨"viewPath", "view_path"⟩, .plain) (by decide))
  have hname := Check.text.plain_eq (h (⟨"viewName", "view_name"⟩, .plain) (by decide))
  have htype := Check.text.plain_eq (h (⟨"viewType", "view_type"⟩, .plain) (by decide))
  exact .of_obj fun place => by simp only [check, Check.record, hpath, hname, htype]

theorem DependencyOptions.agrees_of_fields (h : RecordKind.declared.FieldsAgree p ms ns) :
    check.Agrees id (.obj ms) (.obj ns) := by
  have hlazy := (h (.single "lazy", .plain) (by decide)).plain_eq
  -- null is not set, so that it does not matter here either
  have hset : ∀ rs, ((FieldName.single "lazy").find? rs).any (fun m => m.2.isSet) =
      ((FieldName.single "lazy").present? rs).any fun m => m.2.isSet := by
    intro rs
    rw [FieldName.present?, Option.any_filter]
    congr
    funext m
    cases m.2 <;> simp [Value.isSet]
  simp only [RecordKind.read?] at hlazy
  exact .of_obj fun place => by simp only [check, Check.record, hset, hlazy]

theorem Declarations.agrees_of_fields (h : RecordKind.declarations.FieldsAgree p ms ns) :
    check.Agrees (view p) (.obj ms) (.obj ns) := by
  have hlibs : (Check.table (.nullable DependencyOptions.check)).SameField (p.entries {})
      (.single "libs") ms ns :=
    RecordKind.sameTable rfl (h (.single "libs", .table .declared true) (by decide))
  have hcomponents : (Check.table (.nullable DependencyOptions.check)).SameField (p.entries {})
      (.single "components") ms ns :=
    RecordKind.sameTable rfl (h (.single "components", .table .declared true) (by decide))
  have hview : ∀ x y, view p <$> (Declarations.mk <$> x <*> y) =
      Declarations.mk <$> ((Option.map (p.entries {}) <$> x : Checked _)) <*>
        (Option.map (p.entries {}) <$> y) := by
    intro x y
    cases x <;> cases y <;> rfl
  exact .of_obj fun place => by
    simp only [check, Check.record, hview, hlibs place, hcomponents place]

theorem Routing.agrees_of_fields (h : RecordKind.routing.FieldsAgree p ms ns) :
    check.Agrees (view p) (.obj ms) (.obj ns) := by
  have hconfig : RoutingDefaults.check.SameField id (.single "config") ms ns :=
    Check.sameField (h (.single "config", .record .routingDefaults) (by decide))
      fun _ _ hvw => hvw
  have hroutes : Routes.check.SameField p.routes (.single "routes") ms ns :=
    Check.sameField (h (.single "routes", .collection) (by decide)) fun _ _ hvw => hvw.1
  have htargets : (Check.table (.nullable RoutingTarget.check)).SameField (p.entries {})
      (.single "targets") ms ns :=
    RecordKind.sameTable rfl (h (.single "targets", .table .target true) (by decide))
  have hview : ∀ x y z, view p <$> (Routing.mk <$> x <*> y <*> z) =
      Routing.mk <$> x <*> (Option.map p.routes <$> y : Checked _) <*>
        (Option.map (p.entries {}) <$> z) := by
    intro x y z
    cases x <;> cases y <;> cases z <;> rfl
  exact .of_obj fun place => by
    simp only [check, Check.record, hview, hconfig.eq, hroutes place, htargets place]

theorem UiSection.agrees_of_fields (h : RecordKind.ui.FieldsAgree p ms ns) :
    check.Agrees (view p) (.obj ms) (.obj ns) := by
  have hroot : RootView.check.SameField id ⟨"rootView", "root_view"⟩ ms ns :=
    Check.sameField (h (⟨"rootView", "root_view"⟩, .record .rootView) (by decide))
      fun _ _ hvw => hvw
  have hdeclared : Declarations.check.SameField (Declarations.view p) (.single "dependencies")
      ms ns :=
    Check.sameField (h (.single "dependencies", .record .declarations) (by decide))
      fun _ _ hvw => hvw
  have husages : (Check.table (.nullable ComponentUsage.check)).SameField (p.entries {})
      ⟨"componentUsages", "component_usages"⟩ ms ns :=
    RecordKind.sameTable rfl
      (h (⟨"componentUsages", "component_usages"⟩, .table .usage true) (by decide))
  have hmodels : (Check.table (.nullable ModelConfig.check)).SameField (p.entries {})
      (.single "models") ms ns :=
    RecordKind.sameTable rfl (h (.single "models", .table .model true) (by decide))
  have hrouting : Routing.check.SameField (Routing.view p) (.single "routing") ms ns :=
    Check.sameField (h (.single "routing", .record .routing) (by decide)) fun _ _ hvw => hvw
  have hresources : (Check.table Check.any).SameField p.resources (.single "resources") ms ns :=
    Check.sameField (h (.single "resources", .collection) (by decide)) fun _ _ hvw => hvw.2
  have hview : ∀ a b c d e f,
      view p <$> (UiSection.mk <$> a <*> b <*> c <*> d <*> e <*> f) =
        UiSection.mk <$> a <*> (Option.map (Declarations.view p) <$> b : Checked _) <*>
          (Option.map (p.entries {}) <$> c) <*> (Option.map (p.entries {}) <$> d) <*>
          (Option.map (Routing.view p) <$> e) <*> (Option.map p.resources <$> f) := by
    intro a b c d e f
    cases a <;> cases b <;> cases c <;> cases d <;> cases e <;> cases f <;> rfl
  exact .of_obj fun place => by
    simp only [check, Check.record, hview, hroot.eq, hdeclared place, husages place,
      hmodels place, hrouting place, hresources place]

/-- A section of two manifests is seen as the same, or has the same faults. -/
def Check.SameSection {α β : Type} (c : Check α) (view : α → β) (missing : α) (f : FieldName)
    (ms ns : List (String × Value)) : Prop :=
  view <$> c.section missing f (withoutNullSections ms) =
    view <$> c.section missing f (withoutNullSections ns)

theorem Check.section_eq_atRead {α : Type} (c : Check α) (missing : α) (f : FieldName)
    (ms : List (String × Value)) : c.section missing f ms = c.atRead missing [] (f.find? ms) := by
  rw [Check.section]
  cases f.find? ms <;> rfl

theorem Check.sameSection {α β : Type} {c : Check α} {view : α → β} {missing : α}
    {kind : FieldKind} {f : FieldName}
    (h : kind.ReadsAgree p (RecordKind.manifest.read? f ms) (RecordKind.manifest.read? f ns))
    (hc : ∀ v w, kind.Agrees p v w → c.Agrees view v w) :
    c.SameSection view missing f ms ns := by
  rw [SameSection, section_eq_atRead, section_eq_atRead]
  exact atRead_congr h (fun v w hvw => (hc v w hvw).check_eq) missing []

theorem Manifest.checkMembers_of_fields (h : RecordKind.manifest.FieldsAgree p ms ns) :
    view p <$> checkMembers ms = view p <$> checkMembers ns := by
  have happ : AppSection.check.SameSection id {} ⟨"sap.app", "sap_app"⟩ ms ns :=
    Check.sameSection (h (⟨"sap.app", "sap_app"⟩, .record .app) (by decide)) fun _ _ hvw => hvw
  have hui : UiSection.check.SameSection (UiSection.view p) {} ⟨"sap.ui5", "sap_ui5"⟩ ms ns :=
    Check.sameSection (h (⟨"sap.ui5", "sap_ui5"⟩, .record .ui) (by decide)) fun _ _ hvw => hvw
  have hview : ∀ x y, view p <$> (Manifest.mk <$> x <*> y) =
      Manifest.mk <$> x <*> (UiSection.view p <$> y : Checked _) := by
    intro x y
    cases x <;> cases y <;> rfl
  rw [Check.SameSection, Checked.id_map, Checked.id_map] at happ
  rw [checkMembers, filter_isDroppedSection, checkMembers, filter_isDroppedSection, hview, hview,
    happ, hui]

/-- **Objects whose fields agree** are seen as the same, or have the same
faults. -/
theorem RecordKind.agrees_of_fields : ∀ {k : RecordKind}, k.FieldsAgree p ms ns →
    k.check.Agrees (k.view p) (.obj ms) (.obj ns)
  | manifest, h => .of_obj fun _ => Manifest.checkMembers_of_fields h
  | app, h => AppSection.agrees_of_fields h
  | source, h => DataSource.agrees_of_fields h
  | sourceSettings, h => DataSourceSettings.agrees_of_fields h
  | ui, h => UiSection.agrees_of_fields h
  | rootView, h => RootView.agrees_of_fields h
  | declarations, h => Declarations.agrees_of_fields h
  | declared, h => DependencyOptions.agrees_of_fields h
  | usage, h => ComponentUsage.agrees_of_fields h
  | model, h => ModelConfig.agrees_of_fields h
  | routing, h => Routing.agrees_of_fields h
  | routingDefaults, h => RoutingDefaults.agrees_of_fields h
  | target, h => RoutingTarget.agrees_of_fields h

end Records

end ManifestDeps
