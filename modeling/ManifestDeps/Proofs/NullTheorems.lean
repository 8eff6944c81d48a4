/-
ManifestDeps.Proofs.NullTheorems — what a null says in a manifest.

Under the main name of a field a null says that there is no such field: it
may as well be left out (`NullFieldEdit`), and the very same is read. A null
among named entries says that nothing is configured for the name. In five of
the tables this is as good as an empty object (`NullEntryEdit`); not among
the data sources, where a null has the whole manifest refused
(`NullSource.mem_found`).
-/
import ManifestDeps.Proofs.EditTheorems

namespace ManifestDeps

open Json (Value setMember)

/-! ## §1 Leaving out a null -/

/-- Leave out what a name is bound to. -/
def Json.removeMember (ms : List (String × Value)) (name : String) : List (String × Value) :=
  ms.filter fun m => m.1 ≠ name

open Json (removeMember)

/-- A null under the main name of a field is left out. The second name of
the field, if that is another one, is not in use. -/
inductive NullFieldEdit :
    RecordKind → List (String × Value) → List (String × Value) → Prop where
  | leaveOut {k f c ms} (he : (f, c) ∈ k.fields) (hd : Table.DistinctNames ms)
      (hsecond : f.second = f.main ∨ ms.lookup f.second = none)
      (hl : ms.lookup f.main = some .null) : NullFieldEdit k ms (removeMember ms f.main)

section Omission

variable {ms : List (String × Value)} {name : String}

theorem Json.lookup_removeMember (hd : Table.DistinctNames ms) (name k : String) :
    (removeMember ms name).lookup k = if k = name then none else ms.lookup k := by
  rw [removeMember, Table.lookup_filter hd]
  by_cases hk : k = name
  · simp [hk]
  · cases ms.lookup k <;> simp [hk]

/-- A field that is null is as good as missing. -/
theorem FieldName.present?_removeMember {f : FieldName} (hd : Table.DistinctNames ms)
    (hsecond : f.second = f.main ∨ ms.lookup f.second = none)
    (hl : ms.lookup f.main = some .null) :
    f.present? (removeMember ms f.main) = f.present? ms := by
  have hgone : (removeMember ms f.main).lookup f.second = none := by
    rw [Json.lookup_removeMember hd]
    rcases hsecond with hsame | hnone
    · rw [if_pos hsame]
    · rw [hnone, ite_self]
  rw [present?, present?, find?, find?, hl, hgone, Json.lookup_removeMember hd, if_pos rfl]
  rfl

/-- Other fields do not change. -/
theorem FieldName.find?_removeMember_of_notMem {f : FieldName} (hd : Table.DistinctNames ms)
    (hname : name ∉ f.names) : f.find? (removeMember ms name) = f.find? ms := by
  have hmain : f.main ≠ name := fun he => hname (by simp [names, he])
  have hsecond : f.second ≠ name := fun he => hname (by simp [names, he])
  rw [find?, find?, Json.lookup_removeMember hd, Json.lookup_removeMember hd, if_neg hmain,
    if_neg hsecond]

/-- A null section is left out anyway. -/
theorem withoutNullSections_removeMember (hd : Table.DistinctNames ms)
    (hname : name = "sap.app" ∨ name = "sap.ui5") (hl : ms.lookup name = some .null) :
    withoutNullSections (removeMember ms name) = withoutNullSections ms := by
  rw [withoutNullSections, withoutNullSections, removeMember, List.filter_filter]
  refine List.filter_congr fun m hm => ?_
  obtain ⟨k, v⟩ := m
  by_cases hk : k = name
  · subst hk
    rw [(Table.lookup_eq_some_iff_mem hd).mpr hm] at hl
    cases hl
    rcases hname with rfl | rfl <;> simp
  · simp [hk]

end Omission

/-- What is read for a field is the same after a null has been left out. -/
theorem NullFieldEdit.read?_eq {k : RecordKind} {ms ns : List (String × Value)}
    (h : NullFieldEdit k ms ns) {e : FieldName × FieldKind} (he : e ∈ k.fields) :
    k.read? e.1 ns = k.read? e.1 ms := by
  cases h with
  | leaveOut hf hd hsecond hl =>
    rename_i f c
    have hfield : e.1.present? (removeMember ms f.main) = e.1.present? ms := by
      by_cases hname : f.main ∈ e.1.names
      · rw [← k.fields_unique (f, c) hf e he f.main (by simp [FieldName.names]) hname]
        exact FieldName.present?_removeMember hd hsecond hl
      · rw [FieldName.present?, FieldName.present?,
          FieldName.find?_removeMember_of_notMem hd hname]
    cases k with
    | manifest =>
      have hmain : f.main = "sap.app" ∨ f.main = "sap.ui5" := by
        rcases List.mem_cons.mp hf with heq | hf
        · exact .inl (by cases heq; rfl)
        · exact .inr (by cases List.mem_singleton.mp hf; rfl)
      rw [RecordKind.read?, RecordKind.read?, withoutNullSections_removeMember hd hmain hl]
    | _ => exact hfield

/-- **No field shows** that a null has been left out. -/
theorem NullFieldEdit.fieldsAgree {p : Precision} {k : RecordKind} {ms ns : List (String × Value)}
    (h : NullFieldEdit k ms ns) : k.FieldsAgree p ms ns := by
  intro e he
  rw [h.read?_eq he]
  exact .refl _

/-- **A null field is a missing one.** Two pools hold descriptors of a
component, and what the one says comes from the other by leaving out nulls
under the main names of fields, anywhere in the manifest, or by putting them
there. Then the very same is read from both, or both are refused, and the
analysis comes out the same from any dependencies. -/
theorem null_field_as_missing {p q : Pool} {c : String} {bs cs : List UInt8}
    {ms ns : List (String × Value)} (hp : p.Reads c bs) (hq : q.Reads c cs)
    (hbs : (Content.bytes bs).readJson = .ok (.obj ms))
    (hcs : (Content.bytes cs).readJson = .ok (.obj ns))
    (h : Edited NullFieldEdit (.record .manifest) (.obj ms) (.obj ns)) (d : DependencySet) :
    (∀ name, Manifest.parse name (.bytes cs) = Manifest.parse name (.bytes bs)) ∧
      (∀ M, q.Holds c M ↔ p.Holds c M) ∧
      ({ pool := q } : Analyzer).analyze c d = ({ pool := p } : Analyzer).analyze c d := by
  have hparse := Manifest.parse_eq_of_edited NullFieldEdit.fieldsAgree hbs hcs h
  refine ⟨hparse, fun M => ?_,
    (analyze_eq_of_edited (NullFieldEdit.fieldsAgree (p := .exact)) hp hq hbs hcs h d).1⟩
  constructor
  · rintro ⟨_, hq', hM⟩
    rw [← hq.unique hq', hparse] at hM
    exact ⟨bs, hp, hM⟩
  · rintro ⟨_, hp', hM⟩
    rw [← hp.unique hp', ← hparse] at hM
    exact ⟨cs, hq, hM⟩

/-- The application section and the lazy switch of a library are null, or
missing. -/
theorem null_sections_and_lazy_as_missing :
    let ms : List (String × Value) :=
      [("sap.app", .null), ("sap.ui5", .obj [("dependencies",
        .obj [("libs", .obj [("a", .obj [("lazy", .null)])])])])]
    let ns : List (String × Value) :=
      [("sap.ui5", .obj [("dependencies", .obj [("libs", .obj [("a", .obj [])])])])]
    let analyzer (v : Value) : Analyzer :=
      { pool := .ofTable [("demo/manifest.json", .text (Json.print v))] }
    (analyzer (.obj ns)).analyze "demo/Component.js" .empty =
      (analyzer (.obj ms)).analyze "demo/Component.js" .empty := by
  intro ms ns analyzer
  have hreads (v : Value) : (analyzer v).pool.Reads "demo/Component.js"
      (Content.text (Json.print v)).toBytes := ⟨_, rfl, rfl⟩
  have happ : NullFieldEdit .manifest ms (removeMember ms "sap.app") :=
    .leaveOut (f := ⟨"sap.app", "sap_app"⟩) (c := .record .app) (by decide)
      (by simp [ms, Table.DistinctNames]) (.inr rfl) rfl
  have hlazy : NullFieldEdit .declared [("lazy", .null)]
      (removeMember [("lazy", .null)] "lazy") :=
    .leaveOut (f := .single "lazy") (c := .plain) (by decide) (by simp [Table.DistinctNames])
      (.inl rfl) rfl
  have hui : Edited NullFieldEdit (.record .manifest) (.obj (removeMember ms "sap.app"))
      (.obj ns) :=
    .inField .manifest "sap.ui5" rfl rfl rfl (.inField .ui "dependencies" rfl rfl rfl
      (.inField .declarations "libs" rfl rfl rfl (.inEntry .declared "a" rfl rfl (.edit hlazy))))
  exact (null_field_as_missing (hreads (.obj ms)) (hreads (.obj ns)) (by decide +kernel)
    (by decide +kernel) (.trans (.edit happ) hui) .empty).2.2

/-! ## §2 Null entries -/

/-- A null entry of a table gets an empty object, if the entries of the
table may be null. -/
inductive NullEntryEdit :
    RecordKind → List (String × Value) → List (String × Value) → Prop where
  | fill {k j f name ms ts key} (he : (f, .table j true) ∈ k.fields) (hname : name ∈ f.names)
      (hl : ms.lookup name = some (.obj ts)) (hkey : ts.lookup key = some .null) :
      NullEntryEdit k ms (setMember ms name (.obj (setMember ts key (.obj []))))

/-- No rule sees whether an entry is null or empty. -/
theorem agrees_fillEntry {k : RecordKind} {ts : List (String × Value)} {key : String}
    (hkey : ts.lookup key = some .null) :
    (FieldKind.table k true).Agrees .relevant (.obj ts) (.obj (setMember ts key (.obj []))) := by
  have hentry : ∀ place, k.entryView .relevant true <$> k.entryCheck true place .null =
      k.entryView .relevant true <$> k.entryCheck true place (.obj []) := by
    intro place
    rw [RecordKind.map_entryCheck (u := .obj []) (by simp), k.check_empty]
    rfl
  exact Check.Agrees.of_obj fun place => Check.members_setMember hentry hkey place

theorem NullEntryEdit.fieldsAgree {k : RecordKind} {ms ns : List (String × Value)}
    (h : NullEntryEdit k ms ns) : k.FieldsAgree .relevant ms ns := by
  cases h with
  | fill he hname hl hkey =>
    exact RecordKind.fieldsAgree_setMember he hname hl (agrees_fillEntry hkey)

/-! ### Data sources -/

namespace Checked

variable {α β : Type}

/-- The faults that were found. -/
def found : Checked α → List Located
  | ok _ => []
  | faults fs => fs

@[simp] theorem found_map (f : α → β) (x : Checked α) : (f <$> x).found = x.found := by
  cases x <;> rfl

@[simp] theorem found_seq (f : Checked (α → β)) (x : Checked α) :
    (f <*> x).found = f.found ++ x.found := by
  cases f <;> cases x <;> simp [found]

theorem mem_found {x : Checked α} {f : Located} :
    f ∈ x.found ↔ ∃ fs, x = .faults fs ∧ f ∈ fs := by
  cases x <;> simp [found]

end Checked

/-- Faults of an entry are faults of the table. -/
theorem Check.mem_found_members {α : Type} {c : Check α} {place : Place} {f : Located}
    {key : String} {v : Value} {ts : List (String × Value)} (hmem : (key, v) ∈ ts)
    (hf : f ∈ (c (place ++ [.key key]) v).found) : f ∈ (c.members place ts).found := by
  induction ts with
  | nil => cases hmem
  | cons e rest ih =>
    obtain ⟨k, w⟩ := e
    rw [members, Checked.found_seq, Checked.found_map, List.mem_append]
    rcases List.mem_cons.mp hmem with heq | hmem
    · cases heq
      exact .inl hf
    · exact .inr (ih hmem)

/-- The faults of a field are those of its value. -/
theorem Check.found_field {α : Type} {c : Check α} {field : FieldName} {place : Place}
    {ms : List (String × Value)} {name : String} {v : Value}
    (hfind : field.find? ms = some (name, v)) (hv : v ≠ .null) :
    (c.field field place ms).found = (c (place ++ [.key name]) v).found := by
  rw [Check.field, hfind]
  dsimp only
  rw [nullable_of_ne_null hv, Checked.found_map]

/-- A manifest has a data source at a place, and it is null. -/
inductive NullSource (ms : List (String × Value)) : Place → Prop where
  | ofKey {name field key as ts}
      (happ : (⟨"sap.app", "sap_app"⟩ : FieldName).find? (withoutNullSections ms) =
        some (name, .obj as))
      (hsources : (⟨"dataSources", "data_sources"⟩ : FieldName).find? as = some (field, .obj ts))
      (hnull : (key, .null) ∈ ts) :
      NullSource ms [.key name, .key field, .key key]

/-- A data source that is null is a fault. -/
theorem NullSource.mem_found {ms : List (String × Value)} {place : Place}
    (h : NullSource ms place) :
    ⟨.notRecord "DataSource", place⟩ ∈ (Manifest.checkMembers ms).found := by
  cases h with
  | @ofKey name field key as ts happ hsources hnull =>
    rw [Manifest.checkMembers, filter_isDroppedSection, Checked.found_seq, Checked.found_map,
      List.mem_append, Check.section, happ]
    dsimp only
    rw [AppSection.check, Check.record, Checked.found_map,
      Check.found_field hsources (by simp), Check.table]
    exact .inl (Check.mem_found_members hnull (List.mem_singleton.mpr rfl))

/-- **A null entry is an empty one, except among the data sources.** If an
empty object is put in the place of null libraries, components, component
usages, models or routing targets, or the other way round, in as many places
as one likes, then the analysis comes out the same, and the one descriptor is
a manifest just if the other is. A data source that is null has a descriptor
refused, whatever else it says: nothing is derived from it, and what is
reported is that the data source is no object. -/
theorem null_entry_as_empty_or_refused {p : Pool} {c : String} {bs : List UInt8}
    {ms : List (String × Value)} (hp : p.Reads c bs)
    (hbs : (Content.bytes bs).readJson = .ok (.obj ms)) (d : DependencySet) :
    let before := ({ pool := p } : Analyzer).analyze c d
    (∀ (q : Pool) (cs : List UInt8) (ns : List (String × Value)), q.Reads c cs →
      (Content.bytes cs).readJson = .ok (.obj ns) →
      Edited NullEntryEdit (.record .manifest) (.obj ms) (.obj ns) →
      ({ pool := q } : Analyzer).analyze c d = before ∧
        ((∃ M, q.Holds c M) ↔ ∃ M, p.Holds c M)) ∧
    (∀ place, NullSource ms place →
      (¬ ∃ M, p.Holds c M) ∧
        ∃ fs, ⟨.notRecord "DataSource", place⟩ ∈ fs ∧
          (c ≠ ModuleName.baseComponent → before = ⟨d, [parseErrorReport c
            (ModuleName.descriptorOf c) (.shape ⟨"AppDescriptor", fs⟩)]⟩)) := by
  intro before
  refine ⟨fun q cs ns hq hcs h => analyze_eq_of_edited NullEntryEdit.fieldsAgree hp hq hbs hcs h d,
    fun place h => ?_⟩
  obtain ⟨fs, hcheck, hmem⟩ := Checked.mem_found.mp h.mem_found
  have hparse := Manifest.parse_of_checkMembers hbs (ModuleName.descriptorOf c)
  rw [hcheck] at hparse
  exact ⟨hp.not_holds hparse, fs, hmem, fun hc => Analyzer.analyze_of_invalid hc hp hparse d⟩

/-- A null model and an empty one. -/
theorem null_model_as_empty :
    let ms (model : Value) : List (String × Value) :=
      [("sap.ui5", .obj [("models", .obj [("m", model)])])]
    let analyzer (v : Value) : Analyzer :=
      { pool := .ofTable [("demo/manifest.json", .text (Json.print v))] }
    (analyzer (.obj (ms (.obj [])))).analyze "demo/Component.js" .empty =
      (analyzer (.obj (ms .null))).analyze "demo/Component.js" .empty := by
  intro ms analyzer
  have hreads (v : Value) : (analyzer v).pool.Reads "demo/Component.js"
      (Content.text (Json.print v)).toBytes := ⟨_, rfl, rfl⟩
  have hmodel : NullEntryEdit .ui [("models", .obj [("m", .null)])]
      (setMember [("models", .obj [("m", .null)])] "models"
        (.obj (setMember [("m", .null)] "m" (.obj [])))) :=
    .fill (f := .single "models") (j := .model) (by decide) (by decide) rfl rfl
  have hedit : Edited NullEntryEdit (.record .manifest) (.obj (ms .null)) (.obj (ms (.obj []))) :=
    .inField .manifest "sap.ui5" rfl rfl rfl (.edit hmodel)
  have hread : (Content.bytes (Content.text (Json.print (.obj (ms .null)))).toBytes).readJson =
      .ok (.obj (ms .null)) := by
    decide +kernel
  exact ((null_entry_as_empty_or_refused (hreads _) hread .empty).1 _ _ _ (hreads _)
    (by decide +kernel) hedit).1

/-- A data source that is null costs a library that has nothing to do with
it; an empty one does not. -/
theorem null_source_refused :
    let ms (source : Value) : List (String × Value) :=
      [("sap.app", .obj [("dataSources", .obj [("d", source)])]),
        ("sap.ui5", .obj [("dependencies", .obj [("libs", .obj [("a", .null)])])])]
    let outcome (source : Value) : Outcome :=
      ({ pool := .ofTable [("demo/manifest.json", .text (Json.print (.obj (ms source))))] } :
        Analyzer).analyze "demo/Component.js" .empty
    (outcome .null).dependencies.sorted = [] ∧
      (outcome .null).codes = [.manifestParseError] ∧
      (outcome (.obj [])).dependencies.sorted = [("a/library.js", .required)] ∧
      (outcome (.obj [])).codes = [.dependencyAdded] := by
  decide +kernel

end ManifestDeps
