/-
ManifestDeps.Proofs.UnreadMemberTheorems — what may stand in a manifest
without being read.

Objects may have members that are no fields of theirs, and these may be
anything (`UnreadEdit.members`). Routes and resources are fields, but what
they list is looked at by no check and no rule (`UnreadEdit.items`,
`UnreadEdit.values`). Changing any of this, anywhere in a manifest and in as
many places as one likes, changes nothing about its analysis.
-/
import ManifestDeps.Proofs.EditTheorems

namespace ManifestDeps

open Json (Value setMember)

/-- An edit of what is not read of an object of a kind. -/
inductive UnreadEdit :
    RecordKind → List (String × Value) → List (String × Value) → Prop where
  /-- Members that are no fields are added, removed, replaced or moved. -/
  | members {k ms ns} (hms : Table.DistinctNames ms) (hns : Table.DistinctNames ns)
      (h : ∀ e ∈ k.fields, ∀ name ∈ e.1.names, ms.lookup name = ns.lookup name) :
      UnreadEdit k ms ns
  /-- An array in the place of routes or resources gets other items. -/
  | items {k ms f name xs} (he : (f, .collection) ∈ k.fields) (hname : name ∈ f.names)
      (hl : ms.lookup name = some (.arr xs)) (ys : List Value) :
      UnreadEdit k ms (setMember ms name (.arr ys))
  /-- An object in the place of routes or resources gets other entries. -/
  | values {k ms f name rs} (he : (f, .collection) ∈ k.fields) (hname : name ∈ f.names)
      (hl : ms.lookup name = some (.obj rs)) (ss : List (String × Value)) :
      UnreadEdit k ms (setMember ms name (.obj ss))

namespace UnreadEdit

theorem members_any (place : Place) (rs : List (String × Value)) :
    Check.any.members place rs = .ok rs := by
  induction rs with
  | nil => rfl
  | cons r rest ih =>
    rw [Check.members, ih]
    rfl

theorem agrees_arr (xs ys : List Value) :
    FieldKind.collection.Agrees .relevant (.arr xs) (.arr ys) :=
  ⟨⟨by simp, fun _ => rfl⟩, ⟨by simp, fun _ => rfl⟩⟩

theorem agrees_obj (rs ss : List (String × Value)) :
    FieldKind.collection.Agrees .relevant (.obj rs) (.obj ss) := by
  refine ⟨⟨by simp, fun _ => rfl⟩, .of_obj fun place => ?_⟩
  rw [Check.table, Check.table, members_any, members_any]
  rfl

/-- Where members that are no fields differ, the fields are read alike. -/
theorem read?_eq {k : RecordKind} {ms ns : List (String × Value)}
    (hms : Table.DistinctNames ms) (hns : Table.DistinctNames ns) {f : FieldName}
    (h : ∀ name ∈ f.names, ms.lookup name = ns.lookup name) : k.read? f ms = k.read? f ns := by
  have hmain := h f.main (by simp [FieldName.names])
  have hsecond := h f.second (by simp [FieldName.names])
  cases k with
  | manifest =>
    simp only [RecordKind.read?, FieldName.find?, withoutNullSections, Table.lookup_filter hms,
      Table.lookup_filter hns, hmain, hsecond]
  | _ => simp only [RecordKind.read?, FieldName.present?, FieldName.find?, hmain, hsecond]

/-- **No field shows** such an edit to the rules. -/
theorem fieldsAgree {k : RecordKind} {ms ns : List (String × Value)} (h : UnreadEdit k ms ns) :
    k.FieldsAgree .relevant ms ns := by
  cases h with
  | members hms hns h =>
    intro e he
    rw [read?_eq hms hns (h e he)]
    exact .refl _
  | items he hname hl ys => exact RecordKind.fieldsAgree_setMember he hname hl (agrees_arr _ ys)
  | values he hname hl ss => exact RecordKind.fieldsAgree_setMember he hname hl (agrees_obj _ ss)

end UnreadEdit

/-- **What is not read does not count.** Two pools hold descriptors of a
component, and what the one says comes from the other by edits of what is
not read, anywhere in the manifest. Then the one is a manifest just if the
other is, all rules derive the same from both, and the analysis comes out the
same from any dependencies: the same dependencies in the same order, with the
same reports. -/
theorem analyze_eq_of_unreadEdits {p q : Pool} {c : String} {bs cs : List UInt8}
    {ms ns : List (String × Value)} (hp : p.Reads c bs) (hq : q.Reads c cs)
    (hbs : (Content.bytes bs).readJson = .ok (.obj ms))
    (hcs : (Content.bytes cs).readJson = .ok (.obj ns))
    (h : Edited UnreadEdit (.record .manifest) (.obj ms) (.obj ns)) (d : DependencySet) :
    ((∃ M, q.Holds c M) ↔ ∃ M, p.Holds c M) ∧
      (∀ M N, p.Holds c M → q.Holds c N →
        deriveAll defaultRules N = deriveAll defaultRules M) ∧
      ({ pool := q } : Analyzer).analyze c d = ({ pool := p } : Analyzer).analyze c d := by
  obtain ⟨hanalyze, hholds⟩ := analyze_eq_of_edited UnreadEdit.fieldsAgree hp hq hbs hcs h d
  exact ⟨hholds, fun M N => deriveAll_eq_of_edited UnreadEdit.fieldsAgree hp hq hbs hcs h, hanalyze⟩

/-- The routes are replaced, and the routing section and the manifest get
further members. -/
theorem analyze_eq_of_other_routes :
    let ms : List (String × Value) :=
      [("sap.ui5", .obj [("routing", .obj [("routes", .arr [.str "home"])])])]
    let ns : List (String × Value) :=
      [("sap.ui5", .obj [("routing", .obj [("async", .null), ("routes", .arr [])])]),
        ("start_url", .int 1)]
    let analyzer (v : Value) : Analyzer :=
      { pool := .ofTable [("demo/manifest.json", .text (Json.print v))] }
    (analyzer (.obj ns)).analyze "demo/Component.js" .empty =
      (analyzer (.obj ms)).analyze "demo/Component.js" .empty := by
  intro ms ns analyzer
  have hreads (v : Value) : (analyzer v).pool.Reads "demo/Component.js"
      (Content.text (Json.print v)).toBytes := ⟨_, rfl, rfl⟩
  have hroutes : UnreadEdit .routing [("routes", .arr [.str "home"])]
      (setMember [("routes", .arr [.str "home"])] "routes" (.arr [])) :=
    .items (f := .single "routes") (by decide) (by decide) rfl _
  have hasync : UnreadEdit .routing [("routes", .arr [])]
      [("async", .null), ("routes", .arr [])] :=
    .members (by simp [Table.DistinctNames]) (by simp [Table.DistinctNames]) (by decide)
  have hrouting : Edited UnreadEdit (.record .manifest) (.obj ms)
      (.obj [("sap.ui5", .obj [("routing", .obj [("async", .null), ("routes", .arr [])])])]) :=
    .inField .manifest "sap.ui5" rfl rfl rfl
      (.inField .ui "routing" rfl rfl rfl (.trans (.edit hroutes) (.edit hasync)))
  have hstart : UnreadEdit .manifest
      [("sap.ui5", .obj [("routing", .obj [("async", .null), ("routes", .arr [])])])] ns :=
    .members (by simp [Table.DistinctNames]) (by simp [ns, Table.DistinctNames]) (by decide)
  exact (analyze_eq_of_unreadEdits (hreads (.obj ms)) (hreads (.obj ns)) (by decide +kernel)
    (by decide +kernel) (hrouting.trans (.edit hstart)) .empty).2.2

end ManifestDeps
