/-
ManifestDeps.Proofs.DependencyTheorems — what additions leave in a set of
dependencies.

`strength?_add` says what one addition does. From it the state after any
list of additions is read off the list alone, whatever its order:

* a module is required if it was, or if one of the additions asks for it
  as required (`isRequired_addAll`);
* a module is there if it was, or if one of the additions names it
  (`contains_addAll`);
* it is conditional if it is there and not required
  (`isConditional_iff_contains`).

Two sets that agree on these questions are listed alike once they are
sorted (`sorted_eq_of_agree`), so `sorted_addAll_congr`: additions with the
same members give the same sorted list.
-/
import ManifestDeps.DependencySet
import ManifestDeps.Proofs.TableTheorems

namespace ManifestDeps

/-! ## §1 One addition -/

@[simp] theorem Strength.join_conditional (s : Strength) : s.join .conditional = s := by
  cases s <;> rfl

@[simp] theorem Strength.join_required (s : Strength) : s.join .required = .required := by
  cases s <;> rfl

/-- An addition binds its module to the join of both strengths, and leaves
every other module alone. -/
theorem lookup_addEntry (entries : List (String × Strength)) (module m : String)
    (s : Strength) :
    (addEntry entries module s).lookup m =
      if m = module then some ((entries.lookup module).elim s (·.join s))
      else entries.lookup m := by
  induction entries with
  | nil => by_cases hm : m = module <;> simp [addEntry, Table.lookup_cons_eq_ite, hm]
  | cons e rest ih =>
    obtain ⟨k, t⟩ := e
    by_cases hk : k = module
    · subst hk
      by_cases hm : m = k <;> simp [addEntry, Table.lookup_cons_eq_ite, hm]
    · have hk' : ¬ module = k := fun h => hk h.symm
      by_cases hm : m = k
      · simp [addEntry, hm, hk]
      · simp [addEntry, Table.lookup_cons_eq_ite, hm, hk, hk', ih]

namespace DependencySet

theorem strength?_add (d : DependencySet) (module m : String) (conditional : Bool) :
    (d.add module conditional).strength? m =
      if m = module then
        some ((d.strength? module).elim (.ofConditional conditional)
          (·.join (.ofConditional conditional)))
      else d.strength? m :=
  lookup_addEntry d.entries module m (.ofConditional conditional)

/-! ## §2 The three questions -/

variable {d e : DependencySet} {m : String}

theorem isRequired_iff : d.isRequired m = true ↔ d.strength? m = some .required := by
  simp [isRequired]

theorem isConditional_iff : d.isConditional m = true ↔ d.strength? m = some .conditional := by
  simp [isConditional]

/-- A module is there when it has a strength. -/
theorem contains_iff : d.contains m = true ↔ d.strength? m ≠ none := by
  simp only [contains, modules, List.contains_iff_mem, List.mem_map, strength?, ne_eq,
    List.lookup_eq_none_iff, not_forall, bne_iff_ne, not_not]
  constructor
  · rintro ⟨x, hx, rfl⟩
    exact ⟨x, hx, rfl⟩
  · rintro ⟨x, hx, hm⟩
    exact ⟨x, hx, hm.symm⟩

/-- A module is conditional when it is there and not required. -/
theorem isConditional_iff_contains :
    d.isConditional m = true ↔ d.contains m = true ∧ ¬ d.isRequired m = true := by
  rw [isConditional_iff, contains_iff, isRequired_iff]
  rcases d.strength? m with _ | ⟨_ | _⟩ <;> simp

/-- A module is required when it is there and not conditional. -/
theorem isRequired_iff_contains :
    d.isRequired m = true ↔ d.contains m = true ∧ ¬ d.isConditional m = true := by
  rw [isConditional_iff, contains_iff, isRequired_iff]
  rcases d.strength? m with _ | ⟨_ | _⟩ <;> simp

/-- A module that is there is required or conditional. -/
theorem contains_iff_required_or_conditional :
    d.contains m = true ↔ d.isRequired m = true ∨ d.isConditional m = true := by
  rw [isConditional_iff, contains_iff, isRequired_iff]
  rcases d.strength? m with _ | ⟨_ | _⟩ <;> simp

/-- Nothing is in the empty set. -/
@[simp] theorem isRequired_empty (m : String) : empty.isRequired m = false := rfl

@[simp] theorem contains_empty (m : String) : empty.contains m = false := rfl

@[simp] theorem isConditional_empty (m : String) : empty.isConditional m = false := rfl

/-! ## §3 Any number of additions -/

theorem isRequired_add {module : String} {conditional : Bool} :
    (d.add module conditional).isRequired m = true ↔
      d.isRequired m = true ∨ (m = module ∧ conditional = false) := by
  rw [isRequired_iff, isRequired_iff, strength?_add]
  by_cases hm : m = module
  · subst hm
    cases conditional <;> rcases d.strength? m with _ | ⟨_ | _⟩ <;>
      simp [Strength.ofConditional]
  · simp [hm]

theorem contains_add {module : String} {conditional : Bool} :
    (d.add module conditional).contains m = true ↔ d.contains m = true ∨ m = module := by
  rw [contains_iff, contains_iff, strength?_add]
  by_cases hm : m = module <;> simp [hm]

@[simp] theorem addAll_nil (d : DependencySet) : d.addAll [] = d := rfl

@[simp] theorem addAll_cons (d : DependencySet) (a : String × Bool) (xs : List (String × Bool)) :
    d.addAll (a :: xs) = (d.add a.1 a.2).addAll xs := rfl

theorem addAll_append (d : DependencySet) (xs ys : List (String × Bool)) :
    d.addAll (xs ++ ys) = (d.addAll xs).addAll ys :=
  List.foldl_append

/-- **Required**: before, or by one of the additions. -/
theorem isRequired_addAll {xs : List (String × Bool)} :
    (d.addAll xs).isRequired m = true ↔ d.isRequired m = true ∨ (m, false) ∈ xs := by
  induction xs generalizing d with
  | nil => simp
  | cons a rest ih =>
    obtain ⟨module, conditional⟩ := a
    rw [addAll_cons, ih, isRequired_add, List.mem_cons, Prod.mk.injEq, or_assoc,
      eq_comm (a := false)]

/-- **There**: before, or by one of the additions. -/
theorem contains_addAll {xs : List (String × Bool)} :
    (d.addAll xs).contains m = true ↔ d.contains m = true ∨ ∃ c, (m, c) ∈ xs := by
  induction xs generalizing d with
  | nil => simp
  | cons a rest ih =>
    obtain ⟨module, conditional⟩ := a
    rw [addAll_cons, ih, contains_add, or_assoc]
    simp only [List.mem_cons, Prod.mk.injEq, exists_or, exists_and_left, exists_eq, and_true]

/-- **Conditional**: there, and neither required before nor by one of the
additions. -/
theorem isConditional_addAll {xs : List (String × Bool)} :
    (d.addAll xs).isConditional m = true ↔
      (d.contains m = true ∨ ∃ c, (m, c) ∈ xs) ∧
        ¬ (d.isRequired m = true ∨ (m, false) ∈ xs) := by
  rw [isConditional_iff_contains, contains_addAll, isRequired_addAll]

/-! ## §4 The sorted list -/

theorem mem_entries_iff {s : Strength} : (m, s) ∈ d.entries ↔ d.strength? m = some s :=
  (Table.lookup_eq_some_iff_mem d.keys_nodup).symm

theorem sorted_perm (d : DependencySet) : d.sorted.Perm d.entries :=
  List.mergeSort_perm _ _

theorem mem_sorted_iff {s : Strength} : (m, s) ∈ d.sorted ↔ d.strength? m = some s := by
  rw [d.sorted_perm.mem_iff, mem_entries_iff]

/-- The sorted list goes up by code point. -/
theorem pairwise_sorted (d : DependencySet) : d.sorted.Pairwise fun a b => a.1 ≤ b.1 := by
  have htrans : ∀ a b c : String × Strength,
      decide (a.1 ≤ b.1) = true → decide (b.1 ≤ c.1) = true → decide (a.1 ≤ c.1) = true := by
    simp only [decide_eq_true_eq]
    exact fun a b c => String.le_trans
  have htotal : ∀ a b : String × Strength,
      (decide (a.1 ≤ b.1) || decide (b.1 ≤ a.1)) = true := by
    simp only [Bool.or_eq_true, decide_eq_true_eq]
    exact fun a b => String.le_total a.1 b.1
  exact (List.pairwise_mergeSort htrans htotal d.entries).imp of_decide_eq_true

/-- Sets with the same strengths are listed alike, once sorted. -/
theorem sorted_eq_of_strength? (h : ∀ m, d.strength? m = e.strength? m) :
    d.sorted = e.sorted := by
  have hperm : d.entries.Perm e.entries := by
    rw [List.perm_ext_iff_of_nodup (Table.DistinctNames.nodup d.keys_nodup)
      (Table.DistinctNames.nodup e.keys_nodup)]
    rintro ⟨m, s⟩
    rw [mem_entries_iff, mem_entries_iff, h m]
  refine List.Perm.eq_of_pairwise ?_ d.pairwise_sorted e.pairwise_sorted
    (d.sorted_perm.trans (hperm.trans e.sorted_perm.symm))
  -- entries of equal rank have one name, and a name has one strength
  rintro ⟨m, s⟩ ⟨n, t⟩ ha hb hab hba
  obtain rfl : m = n := String.le_antisymm hab hba
  rw [mem_sorted_iff] at ha hb
  rw [h m, hb, Option.some.injEq] at ha
  rw [ha]

/-- Sets that agree on what is required and on what is there are listed
alike, once sorted. -/
theorem sorted_eq_of_agree (hr : ∀ m, d.isRequired m = true ↔ e.isRequired m = true)
    (hc : ∀ m, d.contains m = true ↔ e.contains m = true) : d.sorted = e.sorted := by
  apply sorted_eq_of_strength?
  intro m
  have hr := hr m
  have hc := hc m
  rw [isRequired_iff, isRequired_iff] at hr
  rw [contains_iff, contains_iff] at hc
  revert hr hc
  rcases d.strength? m with _ | ⟨_ | _⟩ <;> rcases e.strength? m with _ | ⟨_ | _⟩ <;> simp

/-- The order of additions and their repetitions do not show in the sorted
list. -/
theorem sorted_addAll_congr {xs ys : List (String × Bool)} (h : ∀ a, a ∈ xs ↔ a ∈ ys) :
    (d.addAll xs).sorted = (d.addAll ys).sorted := by
  apply sorted_eq_of_agree
  · intro m
    rw [isRequired_addAll, isRequired_addAll, h]
  · intro m
    simp only [contains_addAll, h]

end DependencySet

end ManifestDeps
