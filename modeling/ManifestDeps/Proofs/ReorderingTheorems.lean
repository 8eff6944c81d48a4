/-
ManifestDeps.Proofs.ReorderingTheorems — JSON values up to the order of
object members, and what the checks make of them.

`Value.Reordered` relates values that differ only in the order of object
members, at any depth. Two objects are then related as tables
(`Table.Reordered`): a permutation, then related values under the same
names, entry by entry. With distinct names both answer every name alike
(`Table.Reordered.lookup`), and looking up is all that the fields of a
record do.

A check `Respects` a relation between its results when reordered values
either both fail or give related results. Which faults are found, and in
which order, may change with the order of members. One lemma for each
combinator carries the property from the leaves to whole manifests.
-/
import ManifestDeps.Proofs.ReaderTheorems
import ManifestDeps.Proofs.ValidationTheorems

namespace ManifestDeps

/-! ## §1 Values -/

namespace Json

mutual
/-- The values differ only in the order of object members, at any depth. -/
inductive Value.Reordered : Value → Value → Prop where
  | refl (v : Value) : Reordered v v
  | arr {xs ys : List Value} : ReorderedItems xs ys → Reordered (.arr xs) (.arr ys)
  | obj {ms ms' ns : List (String × Value)} : ms.Perm ms' → ReorderedMembers ms' ns →
      Reordered (.obj ms) (.obj ns)

/-- The items differ so, one by one. -/
inductive Value.ReorderedItems : List Value → List Value → Prop where
  | nil : ReorderedItems [] []
  | cons {v w : Value} {xs ys : List Value} : Reordered v w → ReorderedItems xs ys →
      ReorderedItems (v :: xs) (w :: ys)

/-- The members have the same names, and their values differ so, one by
one. -/
inductive Value.ReorderedMembers : List (String × Value) → List (String × Value) → Prop where
  | nil : ReorderedMembers [] []
  | cons {name : String} {v w : Value} {ms ns : List (String × Value)} : Reordered v w →
      ReorderedMembers ms ns → ReorderedMembers ((name, v) :: ms) ((name, w) :: ns)
end

namespace Value

theorem matches_refl (ms : List (String × Value)) : Table.Matches Reordered ms ms :=
  List.forall₂_same.mpr fun m _ => ⟨rfl, .refl m.2⟩

theorem ReorderedMembers.matches {ms ns : List (String × Value)} (h : ReorderedMembers ms ns) :
    Table.Matches Reordered ms ns := by
  induction ms generalizing ns with
  | nil => cases h; exact .nil
  | cons m ms ih =>
    cases h with
    | cons hv hrest => exact .cons ⟨rfl, hv⟩ (ih hrest)

/-- What an object is reordered to is an object, with its members
reordered. -/
theorem Reordered.exists_obj {ms : List (String × Value)} {w : Value}
    (h : Reordered (.obj ms) w) : ∃ ns, w = .obj ns ∧ Table.Reordered Reordered ms ns := by
  cases h with
  | refl => exact ⟨ms, rfl, ms, .refl ms, matches_refl ms⟩
  | obj hp hm => exact ⟨_, rfl, _, hp, hm.matches⟩

/-- What is reordered to an object is one. -/
theorem Reordered.obj_of_right {v : Value} {ns : List (String × Value)}
    (h : Reordered v (.obj ns)) : ∃ ms, v = .obj ms := by
  cases h with
  | refl => exact ⟨ns, rfl⟩
  | obj _ _ => exact ⟨_, rfl⟩

/-- Reordering keeps whether something is there. -/
theorem Reordered.isSet {v w : Value} (h : Reordered v w) : v.isSet = w.isSet := by
  cases h with
  | refl => rfl
  | arr h => cases h <;> rfl
  | obj hp h =>
    cases h with
    | nil => rw [List.perm_nil.mp hp]
    | cons _ _ => rw [Value.isSet, Value.isSet, hp.isEmpty_eq]; rfl

/-- Reordering changes nothing that is neither array nor object. -/
theorem Reordered.eq_iff {v w u : Value} (h : Reordered v w) (harr : ∀ xs, u ≠ .arr xs)
    (hobj : ∀ ms, u ≠ .obj ms) : v = u ↔ w = u := by
  cases h with
  | refl => rfl
  | arr _ => exact iff_of_false (harr _).symm (harr _).symm
  | obj _ _ => exact iff_of_false (hobj _).symm (hobj _).symm

theorem Reordered.eq_str_iff {v w : Value} (h : Reordered v w) {s : String} :
    v = .str s ↔ w = .str s :=
  h.eq_iff (by simp) (by simp)

theorem Reordered.eq_null_iff {v w : Value} (h : Reordered v w) : v = .null ↔ w = .null :=
  h.eq_iff (by simp) (by simp)

end Value

end Json

/-! ## §2 Checks -/

open Checked (Alike)
open Json (Value)

/-- The members of two objects that are reordered, with distinct names on
the left at every depth. -/
structure SameMembers (ms ns : List (String × Value)) : Prop where
  reordered : Table.Reordered Value.Reordered ms ns
  distinct : Json.MembersDistinct ms

/-- A table in another order, with related values and distinct names. -/
structure Table.Alike {α β : Type} (R : α → β → Prop) (t : Table α) (u : Table β) : Prop where
  reordered : Table.Reordered R t u
  distinct : Table.DistinctNames t

/-- Reordered values pass the check alike. -/
def Check.Respects {α : Type} (R : α → α → Prop) (c : Check α) : Prop :=
  ∀ ⦃v w : Value⦄, v.Reordered w → v.DistinctNames → ∀ p q : Place, Alike R (c p v) (c q w)

theorem Json.Value.DistinctNames.members {ms : List (String × Value)}
    (h : (Value.obj ms).DistinctNames) : Json.MembersDistinct ms := by
  cases h with
  | obj hnames hvalues => exact ⟨hnames, hvalues⟩

namespace Check

variable {α : Type} {R : α → α → Prop} {c : Check α}

/-! ### Leaves -/

theorem respects_any : Respects Value.Reordered any := by
  intro v w h _ p q
  exact .ok h

theorem respects_switch : Respects Eq switch := by
  intro v w h _ p q
  exact .ok h.isSet

theorem respects_text : Respects Eq text := by
  intro v w h _ p q
  cases h with
  | refl =>
    cases v with
    | str s => exact .ok rfl
    | _ => exact .faults _ _
  | arr _ => exact .faults _ _
  | obj _ _ => exact .faults _ _

/-! ### Combinators -/

theorem nullable_of_ne_null {v : Value} (hv : v ≠ .null) (place : Place) :
    nullable c place v = some <$> c place v := by
  cases v with
  | null => exact absurd rfl hv
  | _ => rfl

theorem Respects.nullable (h : Respects R c) : Respects (Option.Rel R) c.nullable := by
  intro v w hvw hd p q
  by_cases hv : v = .null
  · rw [hvw.eq_null_iff.mp hv, hv]
    exact .ok .none
  · have hw : w ≠ .null := fun hw => hv (hvw.eq_null_iff.mpr hw)
    rw [nullable_of_ne_null hv, nullable_of_ne_null hw]
    exact (h hvw hd p q).map fun _ _ hab => .some hab

theorem Respects.nullable_eq (h : Respects Eq c) : Respects Eq c.nullable := by
  intro v w hvw hd p q
  exact (h.nullable hvw hd p q).imp fun _ _ => eq_of_optionRel

/-- Members of reordered objects pass alike. -/
theorem Respects.members (h : Respects R c) {ms ns : List (String × Value)}
    (hm : SameMembers ms ns) (p q : Place) :
    Alike (Table.Alike R) (c.members p ms) (c.members q ns) := by
  -- first the order changes, then the values one by one
  obtain ⟨ms', hperm, hmatch⟩ := hm.reordered
  have halike : Alike (Table.Reordered R) (c.members p ms) (c.members q ns) := by
    refine (members_perm hperm).trans (members_matches hmatch fun m hmem p q w hmw => ?_)
    exact h hmw (hm.distinct.2 m (hperm.mem_iff.mpr hmem)) p q
  have hnames : ∀ t, c.members p ms = .ok t → Table.DistinctNames t := by
    intro t ht
    rw [Table.DistinctNames, names_of_members ht]
    exact hm.distinct.1
  exact (halike.and_left hnames).imp fun _ _ h => ⟨h.2, h.1⟩

/-- A check that refuses everything but objects is compared on objects. -/
theorem respects_of_obj
    (hobj : ∀ ms ns, SameMembers ms ns → ∀ p q, Alike R (c p (.obj ms)) (c q (.obj ns)))
    (hother : ∀ v, (∀ ms, v ≠ .obj ms) → ∀ p, ∃ fs, c p v = .faults fs) : Respects R c := by
  intro v w hvw hd p q
  by_cases hv : ∃ ms, v = .obj ms
  · obtain ⟨ms, rfl⟩ := hv
    obtain ⟨ns, rfl, hmem⟩ := hvw.exists_obj
    exact hobj ms ns ⟨hmem, hd.members⟩ p q
  · have hw : ∀ ns, w ≠ .obj ns := by
      rintro ns rfl
      exact hv hvw.obj_of_right
    obtain ⟨fs, hfs⟩ := hother v (fun ms hms => hv ⟨ms, hms⟩) p
    obtain ⟨gs, hgs⟩ := hother w hw q
    rw [hfs, hgs]
    exact .faults fs gs

theorem Respects.table (h : Respects R c) : Respects (Table.Alike R) c.table := by
  refine respects_of_obj (fun ms ns hm p q => h.members hm p q) fun v hv p => ?_
  cases v with
  | obj ms => exact absurd rfl (hv ms)
  | _ => exact ⟨_, rfl⟩

theorem respects_record {kind : String}
    {fields : Place → List (String × Value) → Checked α}
    (h : ∀ ms ns, SameMembers ms ns → ∀ p q, Alike R (fields p ms) (fields q ns)) :
    Respects R (record kind fields) := by
  refine respects_of_obj h fun v hv p => ?_
  cases v with
  | obj ms => exact absurd rfl (hv ms)
  | _ => exact ⟨_, rfl⟩

end Check

/-! ### Fields -/

section Fields

variable {α : Type} {R : α → α → Prop} {c : Check α} {ms ns : List (String × Value)}

/-- A member found in both objects, under one name. -/
def SameMember (m n : String × Value) : Prop :=
  m.1 = n.1 ∧ m.2.Reordered n.2 ∧ m.2.DistinctNames

theorem SameMembers.lookup (h : SameMembers ms ns) (name : String) :
    Option.Rel (fun v w => v.Reordered w ∧ v.DistinctNames) (ms.lookup name)
      (ns.lookup name) := by
  have hr := h.reordered.lookup h.distinct.1 name
  have hd : ∀ v, ms.lookup name = some v → v.DistinctNames := fun v hv =>
    h.distinct.2 _ (Table.mem_of_lookup hv)
  generalize ms.lookup name = a, ns.lookup name = b at hr hd
  cases hr with
  | some hvw => exact .some ⟨hvw, hd _ rfl⟩
  | none => exact .none

/-- **A field is read from the same member**, whatever the order. -/
theorem SameMembers.find? (h : SameMembers ms ns) (f : FieldName) :
    Option.Rel SameMember (f.find? ms) (f.find? ns) := by
  have hmain := h.lookup f.main
  have hsecond := h.lookup f.second
  unfold FieldName.find?
  generalize ms.lookup f.main = a, ns.lookup f.main = b at hmain
  generalize ms.lookup f.second = a', ns.lookup f.second = b' at hsecond
  cases hmain with
  | some hvw => exact .some ⟨rfl, hvw⟩
  | none =>
    cases hsecond with
    | some hvw => exact .some ⟨rfl, hvw⟩
    | none => exact .none

theorem Check.Respects.field (hc : c.Respects R) (h : SameMembers ms ns) (f : FieldName)
    (p q : Place) : Alike (Option.Rel R) (c.field f p ms) (c.field f q ns) := by
  have hf := h.find? f
  unfold Check.field
  generalize f.find? ms = a, f.find? ns = b at hf
  cases hf with
  | some hmn => exact hc.nullable hmn.2.1 hmn.2.2 _ _
  | none => exact .ok .none

theorem Check.Respects.field_eq {c : Check α} (hc : c.Respects Eq) (h : SameMembers ms ns)
    (f : FieldName) (p q : Place) : Alike Eq (c.field f p ms) (c.field f q ns) :=
  (hc.field h f p q).imp fun _ _ => eq_of_optionRel

theorem Check.Respects.section (hc : c.Respects R) {missing : α} (hmissing : R missing missing)
    (h : SameMembers ms ns) (f : FieldName) :
    Alike R (c.section missing f ms) (c.section missing f ns) := by
  have hf := h.find? f
  unfold Check.section
  generalize f.find? ms = a, f.find? ns = b at hf
  cases hf with
  | some hmn => exact hc hmn.2.1 hmn.2.2 _ _
  | none => exact .ok hmissing

end Fields

end ManifestDeps
