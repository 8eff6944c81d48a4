/-
ManifestDeps.Proofs.EditTheorems — edits anywhere in a manifest.

`Edited E` closes a relation `E` between the members of objects under
everything around them: the objects may stand anywhere in a manifest, there
may be any number of them, and edits may be undone. If what is edited does
not show in the fields of one object, it does not show in the check of a
whole manifest either (`FieldKind.agrees_of_edited`, by induction on the
edits), nor in its analysis (`analyze_eq_of_edited`).
-/
import ManifestDeps.Proofs.RecordTheorems

namespace ManifestDeps

open Json (Value setMember)

/-! ## §1 Replacing a member -/

/-- Replacing what a name is bound to by itself changes nothing. -/
theorem Json.setMember_self {ms : List (String × Value)} {name : String} {v : Value}
    (h : ms.lookup name = some v) : setMember ms name v = ms := by
  induction ms with
  | nil => cases h
  | cons m rest ih =>
    obtain ⟨k, w⟩ := m
    rw [Table.lookup_cons_eq_ite] at h
    by_cases hk : name = k
    · subst hk
      rw [if_pos rfl] at h
      cases h
      rw [setMember, if_pos rfl]
    · rw [if_neg hk] at h
      rw [setMember, if_neg (Ne.symm hk), ih h]

section Members

variable {p : Precision} {ms : List (String × Value)} {name : String} {v w : Value}

/-- A member that is not null stays, whatever sections are left out. -/
theorem withoutNullSections_setMember (hl : ms.lookup name = some v) (hv : v ≠ .null)
    (hw : w ≠ .null) :
    (withoutNullSections ms).lookup name = some v ∧
      withoutNullSections (setMember ms name w) = setMember (withoutNullSections ms) name w := by
  have hkept : ∀ u : Value, u ≠ .null → ∀ rest, withoutNullSections ((name, u) :: rest) =
      (name, u) :: withoutNullSections rest := by
    intro u hu rest
    exact List.filter_cons_of_pos (by simp [hu])
  induction ms with
  | nil => cases hl
  | cons m rest ih =>
    obtain ⟨k, u⟩ := m
    rw [Table.lookup_cons_eq_ite] at hl
    by_cases hk : name = k
    · subst hk
      rw [if_pos rfl] at hl
      cases hl
      rw [setMember, if_pos rfl, hkept _ hv, hkept _ hw, Table.lookup_cons_eq_ite, if_pos rfl,
        setMember, if_pos rfl]
      exact ⟨rfl, rfl⟩
    · rw [if_neg hk] at hl
      obtain ⟨hlookup, hset⟩ := ih hl
      rw [setMember, if_neg (Ne.symm hk), withoutNullSections, withoutNullSections,
        List.filter_cons, List.filter_cons, ← withoutNullSections, ← withoutNullSections]
      split
      · rw [Table.lookup_cons_eq_ite, if_neg hk, setMember, if_neg (Ne.symm hk), hset]
        exact ⟨hlookup, rfl⟩
      · exact ⟨hlookup, hset⟩

/-- What a field finds is bound to one of its names. -/
theorem FieldName.lookup_of_find? {f : FieldName} {m : String × Value} (h : f.find? ms = some m) :
    m.1 ∈ f.names ∧ ms.lookup m.1 = some m.2 := by
  rw [find?] at h
  cases hmain : ms.lookup f.main with
  | some u =>
    rw [hmain] at h
    cases h
    exact ⟨by simp [names], hmain⟩
  | none =>
    rw [hmain] at h
    obtain ⟨u, hu, rfl⟩ := Option.map_eq_some_iff.mp h
    exact ⟨by simp [names], hu⟩

/-- What a field finds after a member has been replaced. -/
theorem FieldName.find?_setMember (f : FieldName) (hl : ms.lookup name = some v) (w : Value) :
    f.find? (setMember ms name w) =
      (f.find? ms).map fun m => if m.1 = name then (name, w) else m := by
  rw [find?, find?, Json.lookup_setMember, Json.lookup_setMember]
  by_cases hmain : f.main = name
  · rw [if_pos hmain, hmain, hl]
    simp
  · rw [if_neg hmain]
    cases ms.lookup f.main with
    | some u => simp [hmain]
    | none =>
      by_cases hsecond : f.second = name
      · simp [hsecond, hl]
      · cases ms.lookup f.second <;> simp [hsecond]

/-- A field reads the same, or what has been replaced. -/
theorem FieldKind.readsAgree_setMember {c : FieldKind} {f : FieldName}
    (hl : ms.lookup name = some v) (h : name ∈ f.names → c.Agrees p v w) :
    c.ReadsAgree p (f.find? ms) (f.find? (setMember ms name w)) := by
  rw [f.find?_setMember hl]
  cases hfind : f.find? ms with
  | none => exact .none
  | some m =>
    obtain ⟨hmem, hlookup⟩ := FieldName.lookup_of_find? hfind
    refine .some ?_
    by_cases hm : m.1 = name
    · simp only [if_pos hm]
      rw [hm] at hmem hlookup
      rw [hl] at hlookup
      cases hlookup
      exact ⟨hm, h hmem⟩
    · simp only [if_neg hm]
      exact ⟨trivial, .refl m.2⟩

/-- A null agrees with nothing else, so that leaving nulls out does no
harm. -/
theorem FieldKind.ReadsAgree.filter {c : FieldKind} {a b : Option (String × Value)}
    (h : c.ReadsAgree p a b) :
    c.ReadsAgree p (a.filter fun m => m.2 ≠ .null) (b.filter fun m => m.2 ≠ .null) := by
  cases h with
  | none => exact .none
  | @some m n hmn =>
    rw [Option.filter_some, Option.filter_some]
    by_cases hm : m.2 = .null
    · have hn : n.2 = .null := hmn.2.null_iff.mp hm
      rw [if_neg (by simp [hm]), if_neg (by simp [hn])]
      exact .none
    · have hn : n.2 ≠ .null := fun hn => hm (hmn.2.null_iff.mpr hn)
      rw [if_pos (by simp [hm]), if_pos (by simp [hn])]
      exact .some hmn

/-- **Replacing a field** by what agrees with it. -/
theorem RecordKind.fieldsAgree_setMember {k : RecordKind} {f : FieldName} {c : FieldKind}
    (he : (f, c) ∈ k.fields) (hname : name ∈ f.names) (hl : ms.lookup name = some v)
    (h : c.Agrees p v w) : k.FieldsAgree p ms (setMember ms name w) := by
  by_cases hv : v = .null
  · -- a null was replaced by a null
    rw [h.null_iff.mp hv, ← hv, Json.setMember_self hl]
    exact fun e _ => .refl _
  · have hw : w ≠ .null := fun hw => hv (h.null_iff.mpr hw)
    intro e' he'
    have hagree : name ∈ e'.1.names → e'.2.Agrees p v w := by
      intro hname'
      rw [← k.fields_unique (f, c) he e' he' name hname hname']
      exact h
    obtain ⟨hl', hset⟩ := withoutNullSections_setMember hl hv hw
    -- in a manifest, null sections are left out before anything is found
    cases k with
    | manifest =>
      simp only [read?, hset]
      exact FieldKind.readsAgree_setMember hl' hagree
    | _ => exact (FieldKind.readsAgree_setMember hl hagree).filter

end Members

/-- What is seen of an entry that is not null is seen of the object itself. -/
theorem RecordKind.map_entryCheck {p : Precision} {k : RecordKind} {u : Value} (hu : u ≠ .null)
    (place : Place) :
    k.entryView p true <$> k.entryCheck true place u =
      (some <$> k.view p <$> k.check place u : Checked (Option k.Record)) := by
  rw [entryCheck, Check.nullable_of_ne_null hu]
  cases k.check place u with
  | ok a =>
    show Checked.ok ((p.entry k.empty (some a)).map (k.view p)) = .ok (some (k.view p a))
    rw [Precision.entry_some]
    rfl
  | faults fs => rfl

/-- The entries of a table agree after one of them has been replaced. -/
theorem RecordKind.agrees_setMember {p : Precision} {k : RecordKind} {nullable : Bool}
    {ts : List (String × Value)} {key : String} {v w : Value} (hl : ts.lookup key = some v)
    (h : (FieldKind.record k).Agrees p v w) :
    (FieldKind.table k nullable).Agrees p (.obj ts) (.obj (setMember ts key w)) := by
  have hentry : ∀ place, k.entryView p nullable <$> k.entryCheck nullable place v =
      k.entryView p nullable <$> k.entryCheck nullable place w := by
    intro place
    cases nullable with
    | false => exact Check.Agrees.check_eq h place
    | true =>
      by_cases hv : v = .null
      · rw [h.null_iff.mp hv, hv]
      · have hw : w ≠ .null := fun hw => hv (h.null_iff.mpr hw)
        rw [map_entryCheck hv, map_entryCheck hw, Check.Agrees.check_eq h]
  exact Check.Agrees.of_obj fun place => Check.members_setMember hentry hl place

/-! ## §2 Edits -/

/-- `E` edits the members of an object of a kind. Any number of such edits
may be made in a value, wherever an object of the kind is found there, and
they may be undone. -/
inductive Edited (E : RecordKind → List (String × Value) → List (String × Value) → Prop) :
    FieldKind → Value → Value → Prop where
  | edit {k ms ns} (h : E k ms ns) : Edited E (.record k) (.obj ms) (.obj ns)
  | field {k ms f c name v w} (he : (f, c) ∈ k.fields) (hname : name ∈ f.names)
      (hl : ms.lookup name = some v) (h : Edited E c v w) :
      Edited E (.record k) (.obj ms) (.obj (setMember ms name w))
  | entry {k nullable ts key v w} (hl : ts.lookup key = some v)
      (h : Edited E (.record k) v w) :
      Edited E (.table k nullable) (.obj ts) (.obj (setMember ts key w))
  | refl {c} (v) : Edited E c v v
  | symm {c v w} (h : Edited E c v w) : Edited E c w v
  | trans {c u v w} (h : Edited E c u v) (h' : Edited E c v w) : Edited E c u w

namespace Edited

variable {E : RecordKind → List (String × Value) → List (String × Value) → Prop}
  {ms ns : List (String × Value)} {v w : Value}

/-- An edit in a field, told by what it leaves behind. -/
theorem inField (k : RecordKind) (name : String) {e : FieldName × FieldKind}
    (he : k.fields.find? (fun e => name ∈ e.1.names) = some e) (hl : ms.lookup name = some v)
    (hset : setMember ms name w = ns) (h : Edited E e.2 v w) :
    Edited E (.record k) (.obj ms) (.obj ns) :=
  hset ▸ .field (List.mem_of_find?_eq_some he) (by simpa using List.find?_some he) hl h

/-- An edit in an entry of a table, told by what it leaves behind. -/
theorem inEntry (k : RecordKind) (key : String) {nullable : Bool} (hl : ms.lookup key = some v)
    (hset : setMember ms key w = ns) (h : Edited E (.record k) v w) :
    Edited E (.table k nullable) (.obj ms) (.obj ns) :=
  hset ▸ .entry hl h

end Edited

/-- **What no field shows, no manifest shows**: edits after which the fields
of an object agree leave every value as it is seen. -/
theorem FieldKind.agrees_of_edited {p : Precision}
    {E : RecordKind → List (String × Value) → List (String × Value) → Prop}
    (hE : ∀ {k ms ns}, E k ms ns → k.FieldsAgree p ms ns) {c : FieldKind} {v w : Value}
    (h : Edited E c v w) : c.Agrees p v w := by
  induction h with
  | edit h => exact RecordKind.agrees_of_fields (hE h)
  | field he hname hl _ ih =>
    exact RecordKind.agrees_of_fields (RecordKind.fieldsAgree_setMember he hname hl ih)
  | entry hl _ ih => exact RecordKind.agrees_setMember hl ih
  | refl v => exact .refl v
  | symm _ ih => exact ih.symm
  | trans _ _ ih ih' => exact ih.trans ih'

/-! ## §3 Analyzing an edited manifest -/

section Analysis

variable {pr : Precision} {E : RecordKind → List (String × Value) → List (String × Value) → Prop}
  {p q : Pool} {c : String} {bs cs : List UInt8} {ms ns : List (String × Value)}

/-- Edited manifests are seen as the same, or refused for the same faults. -/
theorem Manifest.checkMembers_of_edited (hE : ∀ {k ms ns}, E k ms ns → k.FieldsAgree pr ms ns)
    (h : Edited E (.record .manifest) (.obj ms) (.obj ns)) :
    view pr <$> checkMembers ms = view pr <$> checkMembers ns :=
  Check.Agrees.check_eq (FieldKind.agrees_of_edited hE h) []

/-- If edits do not show at all, the same is read from a descriptor. -/
theorem Manifest.parse_eq_of_edited (hE : ∀ {k ms ns}, E k ms ns → k.FieldsAgree .exact ms ns)
    {before after : Content} (hbefore : before.readJson = .ok (.obj ms))
    (hafter : after.readJson = .ok (.obj ns))
    (h : Edited E (.record .manifest) (.obj ms) (.obj ns)) (name : String) :
    parse name after = parse name before := by
  have hcheck := checkMembers_of_edited hE h
  rw [view_exact, Checked.id_map, Checked.id_map] at hcheck
  rw [parse_of_checkMembers hafter, parse_of_checkMembers hbefore, hcheck]

/-- Manifests that are seen as the same derive the same. -/
theorem Manifest.derivations_eq_of_view {M N : Manifest} (h : M.view pr = N.view pr) :
    M.derivations = N.derivations := by
  rw [← M.derivations_view pr, h, N.derivations_view pr]

theorem Manifest.checkMembers_of_parse {content : Content} {name : String} {M : Manifest}
    (hread : content.readJson = .ok (.obj ms)) (h : parse name content = .ok M) :
    checkMembers ms = .ok M := by
  rw [parse_of_checkMembers hread] at h
  cases hcheck : checkMembers ms with
  | ok N =>
    rw [hcheck] at h
    exact congrArg Checked.ok (Except.ok.inj h)
  | faults fs =>
    rw [hcheck] at h
    cases h

/-- The rules derive the same from manifests before and after edits that do
not show to them. -/
theorem deriveAll_eq_of_edited (hE : ∀ {k ms ns}, E k ms ns → k.FieldsAgree pr ms ns)
    (hp : p.Reads c bs) (hq : q.Reads c cs) (hbs : (Content.bytes bs).readJson = .ok (.obj ms))
    (hcs : (Content.bytes cs).readJson = .ok (.obj ns))
    (h : Edited E (.record .manifest) (.obj ms) (.obj ns)) {M N : Manifest}
    (hM : p.Holds c M) (hN : q.Holds c N) :
    deriveAll defaultRules N = deriveAll defaultRules M := by
  obtain ⟨_, hp', hM⟩ := hM
  obtain ⟨_, hq', hN⟩ := hN
  rw [← hp.unique hp'] at hM
  rw [← hq.unique hq'] at hN
  have hcheck := Manifest.checkMembers_of_edited hE h
  rw [Manifest.checkMembers_of_parse hbs hM, Manifest.checkMembers_of_parse hcs hN] at hcheck
  rw [deriveAll_defaultRules, deriveAll_defaultRules,
    Manifest.derivations_eq_of_view (Checked.ok.inj hcheck)]

/-- **Analyzing an edited manifest**: as long as edits do not show to the
rules, the analysis comes out the same, from any dependencies. -/
theorem analyze_eq_of_edited (hE : ∀ {k ms ns}, E k ms ns → k.FieldsAgree pr ms ns)
    (hp : p.Reads c bs) (hq : q.Reads c cs) (hbs : (Content.bytes bs).readJson = .ok (.obj ms))
    (hcs : (Content.bytes cs).readJson = .ok (.obj ns))
    (h : Edited E (.record .manifest) (.obj ms) (.obj ns)) (d : DependencySet) :
    ({ pool := q } : Analyzer).analyze c d = ({ pool := p } : Analyzer).analyze c d ∧
      ((∃ M, q.Holds c M) ↔ ∃ M, p.Holds c M) :=
  analyze_eq_of_same_view (fun _ _ => Manifest.derivations_eq_of_view) hp hq hbs hcs
    (Manifest.checkMembers_of_edited hE h).symm d

end Analysis

end ManifestDeps
