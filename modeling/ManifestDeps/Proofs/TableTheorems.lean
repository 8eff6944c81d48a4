/-
ManifestDeps.Proofs.TableTheorems — looking up names in tables.

A table lists named entries in order. Where its names are distinct, a
name is bound to a value exactly when the entry is listed
(`lookup_eq_some_iff_mem`), so that a table in another order answers
every name alike (`lookup_eq_of_perm`).

`Reordered` also lets the values differ by a relation: first a permutation,
then related values under the same names, entry by entry. Such tables
answer every name with related values (`Reordered.lookup`).

A last section is about lists of names in which some occur more than once,
and the names in the order of their first occurrence.
-/
import Mathlib.Data.List.Forall2
import Mathlib.Data.List.Induction
import Mathlib.Data.List.Nodup
import ManifestDeps.Manifest.Basic

namespace ManifestDeps.Table

variable {α : Type}

/-! ## §1 Distinct names -/

/-- The names of a table are distinct. -/
def DistinctNames (t : Table α) : Prop :=
  (t.map Prod.fst).Nodup

theorem DistinctNames.of_cons {e : String × α} {t : Table α}
    (h : DistinctNames (e :: t)) : DistinctNames t := by
  simp only [DistinctNames, List.map_cons, List.nodup_cons] at h
  exact h.2

theorem DistinctNames.head_notMem {e : String × α} {t : Table α}
    (h : DistinctNames (e :: t)) : e.1 ∉ t.map Prod.fst := by
  simp only [DistinctNames, List.map_cons, List.nodup_cons] at h
  exact h.1

/-- The name of an entry is not among those before it. -/
theorem DistinctNames.notMem_of_append {t u : Table α} {e : String × α}
    (h : DistinctNames (t ++ e :: u)) : e.1 ∉ t.map Prod.fst := by
  rw [DistinctNames, List.map_append, List.map_cons, List.nodup_append] at h
  exact fun he => h.2.2 _ he _ List.mem_cons_self rfl

theorem DistinctNames.filter {t : Table α} (p : String × α → Bool) (h : DistinctNames t) :
    DistinctNames (t.filter p) :=
  h.sublist (List.filter_sublist.map Prod.fst)

/-- Other values under the same names. -/
theorem DistinctNames.map {β : Type} {t : Table α} (h : DistinctNames t) (f : String × α → β) :
    DistinctNames (t.map fun e => (e.1, f e)) := by
  rwa [DistinctNames, List.map_map]

theorem DistinctNames.of_perm {t u : Table α} (hp : t.Perm u) (h : DistinctNames t) :
    DistinctNames u :=
  (hp.map Prod.fst).nodup h

/-- Distinct names make the entries distinct. -/
theorem DistinctNames.nodup {t : Table α} (h : DistinctNames t) : List.Nodup t :=
  List.Nodup.of_map Prod.fst h

/-- The first entry answers its own name. -/
theorem lookup_cons_eq_ite (k : String) (a : α) (t : Table α) (name : String) :
    List.lookup name ((k, a) :: t) = if name = k then some a else t.lookup name := by
  by_cases h : name = k
  · simp [h]
  · rw [List.lookup_cons, beq_false_of_ne h, if_neg h]

/-- What is found under a name is listed under it. -/
theorem mem_of_lookup {t : Table α} {name : String} {a : α}
    (h : t.lookup name = some a) : (name, a) ∈ t := by
  obtain ⟨before, after, rfl, -⟩ := List.lookup_eq_some_iff.mp h
  simp

/-- With distinct names, a name is bound to what is listed under it. -/
theorem lookup_eq_some_iff_mem {t : Table α} (hd : DistinctNames t) {name : String} {a : α} :
    t.lookup name = some a ↔ (name, a) ∈ t := by
  refine ⟨mem_of_lookup, fun hm => ?_⟩
  induction t with
  | nil => simp at hm
  | cons e rest ih =>
    obtain ⟨k, b⟩ := e
    rcases List.mem_cons.mp hm with he | hm
    · cases he
      simp
    · have hk : name ≠ k := by
        intro hk
        exact hd.head_notMem (List.mem_map.mpr ⟨(name, a), hm, hk⟩)
      rw [lookup_cons_eq_ite, if_neg hk]
      exact ih hd.of_cons hm

/-- The order of a table does not matter to looking up. -/
theorem lookup_eq_of_perm {t u : Table α} (hd : DistinctNames t) (hp : t.Perm u)
    (name : String) : t.lookup name = u.lookup name := by
  apply Option.ext
  intro a
  rw [lookup_eq_some_iff_mem hd, lookup_eq_some_iff_mem (hd.of_perm hp), hp.mem_iff]

/-! ## §2 Tables in another order -/

variable {β : Type} {R : α → β → Prop}

/-- The same names in the same order, with related values. -/
def Matches (R : α → β → Prop) : Table α → Table β → Prop :=
  List.Forall₂ fun a b => a.1 = b.1 ∧ R a.2 b.2

/-- The same names in any order, with related values. -/
def Reordered (R : α → β → Prop) (t : Table α) (u : Table β) : Prop :=
  ∃ s, t.Perm s ∧ Matches R s u

theorem Matches.lookup {t : Table α} {u : Table β} (h : Matches R t u) (name : String) :
    Option.Rel R (t.lookup name) (u.lookup name) := by
  induction h with
  | nil => exact .none
  | @cons a b t u hab _ ih =>
    obtain ⟨k, x⟩ := a
    obtain ⟨l, y⟩ := b
    obtain ⟨rfl, hxy⟩ := hab
    rw [lookup_cons_eq_ite, lookup_cons_eq_ite]
    split
    · exact .some hxy
    · exact ih

/-- **Reordered tables answer every name alike.** -/
theorem Reordered.lookup {t : Table α} {u : Table β} (h : Reordered R t u)
    (hd : DistinctNames t) (name : String) :
    Option.Rel R (t.lookup name) (u.lookup name) := by
  obtain ⟨s, hp, hm⟩ := h
  rw [lookup_eq_of_perm hd hp]
  exact hm.lookup name

/-- Leaving out entries on both sides, by a test that tells related ones
alike. -/
theorem Reordered.filter {t : Table α} {u : Table β} (h : Reordered R t u)
    {p : String × α → Bool} {q : String × β → Bool}
    (hpq : ∀ name a b, R a b → p (name, a) = q (name, b)) :
    Reordered R (t.filter p) (u.filter q) := by
  obtain ⟨s, hp, hm⟩ := h
  refine ⟨s.filter p, hp.filter p, ?_⟩
  clear hp
  induction hm with
  | nil => exact .nil
  | @cons a b s u hab _ ih =>
    obtain ⟨k, x⟩ := a
    obtain ⟨l, y⟩ := b
    obtain ⟨rfl, hxy⟩ := hab
    rw [List.filter_cons, List.filter_cons, hpq k x y hxy]
    split
    · exact .cons ⟨rfl, hxy⟩ ih
    · exact ih

/-- Reordering with equal values is a permutation. -/
theorem Reordered.perm {t u : Table α} (h : Reordered Eq t u) : t.Perm u := by
  obtain ⟨s, hp, hm⟩ := h
  have hs : s = u := by
    clear hp
    induction hm with
    | nil => rfl
    | cons hab _ ih => rw [ih, Prod.ext hab.1 hab.2]
  rwa [hs] at hp

/-! ## §3 Names in order of first occurrence -/

/-- A name at the end counts if it is new. -/
theorem eraseDups_concat (names : List String) (name : String) :
    (names ++ [name]).eraseDups =
      if name ∈ names then names.eraseDups else names.eraseDups ++ [name] := by
  rw [List.eraseDups_append, List.cons_removeAll, List.contains_eq_mem]
  by_cases h : name ∈ names
  · rw [if_pos h, decide_eq_true h]
    simp
  · rw [if_neg h, decide_eq_false h]
    simp [List.eraseDups_cons]

theorem nodup_eraseDups (names : List String) : names.eraseDups.Nodup := by
  induction names using List.reverseRecOn with
  | nil => exact List.nodup_nil
  | append_singleton before name ih =>
    rw [eraseDups_concat]
    split
    · exact ih
    · rename_i h
      exact List.nodup_append.mpr ⟨ih, List.nodup_singleton _, fun a ha b hb => by
        rintro rfl
        exact h (List.mem_eraseDups.mp (List.mem_singleton.mp hb ▸ ha))⟩

end ManifestDeps.Table
