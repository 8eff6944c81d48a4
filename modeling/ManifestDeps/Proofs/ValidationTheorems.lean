/-
ManifestDeps.Proofs.ValidationTheorems — comparing the outcomes of checks.

Two checks come out `Alike` over a relation when both fail, or both give
values that are related. Faults are not compared. The applicative structure
keeps this (`Alike.map`, `Alike.seq`), so that a record is compared field by
field, and one lemma for each combinator below says when its outcomes are
alike.
-/
import Mathlib.Logic.Relation
import Mathlib.Logic.Relator
import ManifestDeps.Proofs.TableTheorems
import ManifestDeps.Validation

namespace ManifestDeps

open Json (Value)

/-! ## §1 Options -/

section Options

variable {α β γ δ : Type} {R : α → β → Prop} {S : γ → δ → Prop}

theorem eq_of_optionRel {a b : Option α} (h : Option.Rel Eq a b) : a = b := by
  cases h with
  | some h => rw [h]
  | none => rfl

theorem isSome_eq_of_optionRel {a : Option α} {b : Option β} (h : Option.Rel R a b) :
    a.isSome = b.isSome := by
  cases h <;> rfl

theorem optionRel_bind {a : Option α} {b : Option β} {f : α → Option γ} {g : β → Option δ}
    (h : Option.Rel R a b) (hfg : ∀ x y, R x y → Option.Rel S (f x) (g y)) :
    Option.Rel S (a.bind f) (b.bind g) := by
  cases h with
  | some hxy => exact hfg _ _ hxy
  | none => exact .none

end Options

/-! ## §2 Outcomes that are alike -/

namespace Checked

variable {α β γ δ ε : Type} {R : α → β → Prop} {S : γ → δ → Prop}

/-- Both outcomes are faults, or both are values that are related. -/
inductive Alike (R : α → β → Prop) : Checked α → Checked β → Prop where
  | ok {a : α} {b : β} : R a b → Alike R (.ok a) (.ok b)
  | faults (fs gs : List Located) : Alike R (.faults fs) (.faults gs)

theorem Alike.refl {R : α → α → Prop} (hR : ∀ a, R a a) (x : Checked α) : Alike R x x := by
  cases x with
  | ok a => exact .ok (hR a)
  | faults fs => exact .faults fs fs

theorem Alike.map {x : Checked α} {y : Checked β} {f : α → γ} {g : β → δ}
    (hfg : Relator.LiftFun R S f g) (h : Alike R x y) : Alike S (f <$> x) (g <$> y) := by
  cases h with
  | ok hab => exact .ok (hfg hab)
  | faults fs gs => exact .faults fs gs

theorem Alike.seq {f : Checked (α → γ)} {g : Checked (β → δ)} {x : Checked α} {y : Checked β}
    (hfg : Alike (Relator.LiftFun R S) f g) (h : Alike R x y) :
    Alike S (f <*> x) (g <*> y) := by
  cases hfg with
  | ok hfg =>
    cases h with
    | ok hab => exact .ok (hfg hab)
    | faults fs gs => exact .faults fs gs
  | faults fs gs =>
    cases h with
    | ok _ => exact .faults fs gs
    | faults fs' gs' => exact .faults (fs ++ fs') (gs ++ gs')

theorem Alike.imp {R' : α → β → Prop} {x : Checked α} {y : Checked β}
    (hR : ∀ a b, R a b → R' a b) (h : Alike R x y) : Alike R' x y := by
  cases h with
  | ok hab => exact .ok (hR _ _ hab)
  | faults fs gs => exact .faults fs gs

/-- What holds of every value on the left may be added to the relation. -/
theorem Alike.and_left {P : α → Prop} {x : Checked α} {y : Checked β} (h : Alike R x y)
    (hP : ∀ a, x = .ok a → P a) : Alike (fun a b => P a ∧ R a b) x y := by
  cases h with
  | ok hab => exact .ok ⟨hP _ rfl, hab⟩
  | faults fs gs => exact .faults fs gs

theorem Alike.trans {T : β → ε → Prop} {x : Checked α} {y : Checked β} {z : Checked ε}
    (h : Alike R x y) (h' : Alike T y z) : Alike (Relation.Comp R T) x z := by
  cases h with
  | ok hab =>
    cases h' with
    | ok hbc => exact .ok ⟨_, hab, hbc⟩
  | faults fs gs =>
    cases h' with
    | faults _ hs => exact .faults fs hs

end Checked

/-! ## §3 Members -/

namespace Check

open Checked (Alike)

variable {α β : Type} {c : Check α}

/-- The checked members have the names of the members. -/
theorem names_of_members {place : Place} {ms : List (String × Value)}
    {t : List (String × α)} (h : members c place ms = .ok t) :
    t.map Prod.fst = ms.map Prod.fst := by
  induction ms generalizing t with
  | nil =>
    cases h
    rfl
  | cons m rest ih =>
    obtain ⟨name, v⟩ := m
    rw [members] at h
    cases hv : c (place ++ [.key name]) v with
    | faults fs =>
      cases hrest : members c place rest with
      | ok u => simp [hv, hrest] at h
      | faults gs => simp [hv, hrest] at h
    | ok a =>
      cases hrest : members c place rest with
      | faults gs => simp [hv, hrest] at h
      | ok u =>
        simp only [hv, hrest, Checked.map_ok, Checked.ok_seq_ok, Checked.ok.injEq] at h
        rw [← h, List.map_cons, List.map_cons, ih hrest]

/-- The order in which members are checked does not decide whether they
pass. -/
theorem members_perm {place : Place} {ms ns : List (String × Value)} (h : ms.Perm ns) :
    Alike List.Perm (members c place ms) (members c place ns) := by
  induction h with
  | nil => exact .ok .nil
  | cons m _ ih =>
    obtain ⟨name, v⟩ := m
    have hv : Alike Eq (c (place ++ [.key name]) v) (c (place ++ [.key name]) v) :=
      Alike.refl (fun _ => rfl) _
    refine Alike.seq (hv.map ?_) ih
    intro a b hab t u htu
    rw [hab]
    exact htu.cons _
  | swap m n rest =>
    obtain ⟨name, v⟩ := m
    obtain ⟨name', w⟩ := n
    rw [members, members, members, members]
    -- values pass through in the other order; a fault of any of the three is one of all
    cases c (place ++ [.key name]) v <;> cases c (place ++ [.key name']) w <;>
      cases members c place rest <;>
      first
        | exact .ok (.swap _ _ _)
        | exact .faults _ _
  | trans _ _ ih ih' =>
    refine (ih.trans ih').imp ?_
    rintro t u ⟨s, hts, hsu⟩
    exact hts.trans hsu

/-- Members with the same names in the same order are compared one by
one. -/
theorem members_matches {S : Value → Value → Prop} {d : Check β} {R : α → β → Prop}
    {p q : Place} {ms ns : List (String × Value)} (h : Table.Matches S ms ns)
    (hcd : ∀ m ∈ ms, ∀ p q w, S m.2 w → Alike R (c p m.2) (d q w)) :
    Alike (Table.Matches R) (members c p ms) (members d q ns) := by
  induction h with
  | nil => exact .ok .nil
  | @cons m n ms ns hmn _ ih =>
    obtain ⟨name, v⟩ := m
    obtain ⟨name', w⟩ := n
    obtain ⟨rfl, hvw⟩ := hmn
    have hhead := hcd (name, v) List.mem_cons_self (p ++ [.key name]) (q ++ [.key name]) w hvw
    refine Alike.seq (hhead.map ?_) (ih fun m hm => hcd m (List.mem_cons_of_mem _ hm))
    intro a b hab t u htu
    exact .cons ⟨rfl, hab⟩ htu

end Check

end ManifestDeps
