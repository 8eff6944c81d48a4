/-
ManifestDeps.Proofs.HistoryTheorems — what a history of additions settles.

A set that starts empty is a function of the additions made to it, and
this module reads every question that can be put to the set off their list.
The strengths were settled in `DependencyTheorems`; here it is the order.
`modules_add` says what one addition does to it: a module that is there
stays where it is, whatever its strength becomes, and one that is not is
put behind all others. So after any history the modules stand in the order
of their first additions (`modules_addAll_empty`).

Several writers may share a set, each with a list of additions of its own.
Whose turn it is, is left open (`Writers.Step`). At every moment the
additions made so far, taken in the order in which they were made, account
for the set (`Writers.Accounts`), so that a run of writers is one history
among others, and the sorted list does not tell which.
-/
import Mathlib.Data.Finset.Card
import Mathlib.Logic.Relation
import ManifestDeps.Proofs.DependencyTheorems

namespace ManifestDeps

/-! ## §1 The order of the modules -/

/-- An addition leaves the listed names where they are; a new one comes
last. -/
theorem keys_addEntry (entries : List (String × Strength)) (module : String) (s : Strength) :
    (addEntry entries module s).map Prod.fst =
      if module ∈ entries.map Prod.fst then entries.map Prod.fst
      else entries.map Prod.fst ++ [module] := by
  induction entries with
  | nil => simp [addEntry]
  | cons e rest ih =>
    obtain ⟨k, t⟩ := e
    by_cases hk : k = module
    · simp [addEntry, hk]
    · have hk' : ¬ module = k := fun h => hk h.symm
      simp only [addEntry, hk, if_false, List.map_cons, List.mem_cons, hk', false_or, ih]
      split <;> simp

namespace DependencySet

variable {d : DependencySet} {m : String}

theorem nodup_modules (d : DependencySet) : d.modules.Nodup :=
  d.keys_nodup

theorem modules_add (d : DependencySet) (module : String) (conditional : Bool) :
    (d.add module conditional).modules =
      if module ∈ d.modules then d.modules else d.modules ++ [module] :=
  keys_addEntry d.entries module (.ofConditional conditional)

/-- **Order**: the modules stand in the order of their first additions. -/
theorem modules_addAll_empty (xs : List (String × Bool)) :
    (empty.addAll xs).modules = (xs.map Prod.fst).eraseDups := by
  induction xs using List.reverseRecOn with
  | nil => rfl
  | append_singleton before a ih =>
    have hlast : (empty.addAll (before ++ [a])).modules =
        ((empty.addAll before).add a.1 a.2).modules := by
      rw [addAll_append]
      rfl
    rw [hlast, modules_add, ih, List.map_append, List.map_singleton, Table.eraseDups_concat]
    simp only [List.mem_eraseDups]

/-- Later additions, upgrades among them, move nothing. -/
theorem modules_prefix_addAll (d : DependencySet) (xs : List (String × Bool)) :
    d.modules <+: (d.addAll xs).modules := by
  induction xs generalizing d with
  | nil => exact List.prefix_refl _
  | cons a rest ih =>
    have hstep : d.modules <+: (d.add a.1 a.2).modules := by
      rw [modules_add]
      split
      · exact List.prefix_refl _
      · exact List.prefix_append _ _
    exact hstep.trans (ih _)

theorem size_eq_length_modules (d : DependencySet) : d.size = d.modules.length := by
  simp [size, modules]

theorem size_eq_card (d : DependencySet) : d.size = d.modules.toFinset.card := by
  rw [List.toFinset_card_of_nodup d.nodup_modules, size_eq_length_modules]

/-- Names are distinct, so the sorted list goes strictly up. -/
theorem pairwise_lt_sorted (d : DependencySet) : d.sorted.Pairwise fun a b => a.1 < b.1 := by
  have hnodup : (d.sorted.map Prod.fst).Nodup := by
    rw [(d.sorted_perm.map Prod.fst).nodup_iff]
    exact d.keys_nodup
  rw [List.Nodup, List.pairwise_map] at hnodup
  refine (d.pairwise_sorted.and hnodup).imp ?_
  rintro a b ⟨hle, hne⟩
  exact String.not_le.mp fun hge => hne (String.le_antisymm hle hge)

/-- A module that is there has one of the two strengths, and not both. -/
theorem xor_of_contains (h : d.contains m = true) :
    Xor (d.isRequired m = true) (d.isConditional m = true) := by
  rcases contains_iff_required_or_conditional.mp h with hr | hc
  · exact .inl ⟨hr, (isRequired_iff_contains.mp hr).2⟩
  · exact .inr ⟨hc, (isConditional_iff_contains.mp hc).2⟩

/-- A module that is not there has none. -/
theorem no_strength_of_not_contains (h : ¬ d.contains m = true) :
    d.isRequired m = false ∧ d.isConditional m = false := by
  rw [contains_iff_required_or_conditional, not_or, Bool.not_eq_true, Bool.not_eq_true] at h
  exact h

example : (empty.addAll [("b", true), ("a", true), ("b", false)]).entries =
    [("b", .required), ("a", .conditional)] := by decide

/-! ## §2 The state after a history -/

/-- What is found in a set after a history of additions. -/
structure Reflects (d : DependencySet) (xs : List (String × Bool)) : Prop where
  /-- An addition required the module. -/
  required_iff : ∀ m, d.strength? m = some .required ↔ (m, false) ∈ xs
  /-- The module was added, and never as required. -/
  conditional_iff : ∀ m, d.strength? m = some .conditional ↔
    (∃ c, (m, c) ∈ xs) ∧ ∀ c, (m, c) ∈ xs → c = true
  absent_iff : ∀ m, d.strength? m = none ↔ ∀ c, (m, c) ∉ xs
  contains_iff : ∀ m, d.contains m = true ↔ ∃ c, (m, c) ∈ xs
  one_strength : ∀ m, d.contains m = true → Xor (d.isRequired m = true) (d.isConditional m = true)
  no_strength : ∀ m, ¬ d.contains m = true → d.isRequired m = false ∧ d.isConditional m = false
  /-- The modules stand in the order of their first additions. -/
  modules_eq : d.modules = (xs.map Prod.fst).eraseDups
  nodup : d.modules.Nodup
  size_eq : d.size = (xs.map Prod.fst).toFinset.card
  /-- The sorted list goes strictly up by code point. -/
  ascending : d.sorted.Pairwise fun a b => a.1 < b.1
  sorted_iff : ∀ m s, (m, s) ∈ d.sorted ↔ d.strength? m = some s

/-- Two sets that differ in the order of their modules at most. -/
structure SameButOrder (d e : DependencySet) : Prop where
  strength?_eq : ∀ m, d.strength? m = e.strength? m
  size_eq : d.size = e.size
  sorted_eq : d.sorted = e.sorted

section History

variable {xs : List (String × Bool)}

theorem strength?_eq_required_iff :
    (empty.addAll xs).strength? m = some .required ↔ (m, false) ∈ xs := by
  rw [← isRequired_iff, isRequired_addAll]
  simp

theorem strength?_eq_none_iff :
    (empty.addAll xs).strength? m = none ↔ ∀ c, (m, c) ∉ xs := by
  rw [← not_iff_not, ← ne_eq, ← contains_iff, contains_addAll]
  simp only [contains_empty, Bool.false_eq_true, false_or, not_forall, not_not]

theorem strength?_eq_conditional_iff :
    (empty.addAll xs).strength? m = some .conditional ↔
      (∃ c, (m, c) ∈ xs) ∧ ∀ c, (m, c) ∈ xs → c = true := by
  rw [← isConditional_iff, isConditional_addAll]
  simp only [contains_empty, isRequired_empty, Bool.false_eq_true, false_or]
  refine and_congr_right fun _ => ⟨fun h c hc => ?_, fun h hc => Bool.noConfusion (h false hc)⟩
  cases c with
  | false => exact absurd hc h
  | true => rfl

theorem size_addAll : (empty.addAll xs).size = (xs.map Prod.fst).toFinset.card := by
  rw [size_eq_card, modules_addAll_empty]
  congr 1
  ext m
  rw [List.mem_toFinset, List.mem_toFinset, List.mem_eraseDups]

/-- **History**: a set that starts empty reflects the additions made to
it. -/
theorem reflects_addAll (xs : List (String × Bool)) : (empty.addAll xs).Reflects xs where
  required_iff _ := strength?_eq_required_iff
  conditional_iff _ := strength?_eq_conditional_iff
  absent_iff _ := strength?_eq_none_iff
  contains_iff m := by
    rw [contains_addAll]
    simp
  one_strength _ := xor_of_contains
  no_strength _ := no_strength_of_not_contains
  modules_eq := modules_addAll_empty xs
  nodup := nodup_modules _
  size_eq := size_addAll
  ascending := pairwise_lt_sorted _
  sorted_iff _ _ := mem_sorted_iff

/-- **Order**: additions in another order give the same but for the order
of the modules. -/
theorem sameButOrder_addAll {ys : List (String × Bool)} (h : ys.Perm xs) :
    (empty.addAll ys).SameButOrder (empty.addAll xs) where
  strength?_eq m := by
    apply Option.ext
    rintro (_ | _)
    · rw [strength?_eq_required_iff, strength?_eq_required_iff, h.mem_iff]
    · rw [strength?_eq_conditional_iff, strength?_eq_conditional_iff]
      simp only [h.mem_iff]
  size_eq := by rw [size_addAll, size_addAll, List.toFinset_eq_of_perm _ _ (h.map Prod.fst)]
  sorted_eq := sorted_addAll_congr fun _ => h.mem_iff

end History

end DependencySet

/-! ## §3 Several writers -/

/-- Writers at work on one set. -/
structure Writers where
  /-- The additions that each writer has still to make, in its order. -/
  pending : List (List (String × Bool))
  /-- What they have made of the set. -/
  dependencies : DependencySet

namespace Writers

/-- One of the writers makes its next addition, at one go. -/
inductive Step : Writers → Writers → Prop where
  | add {before after : List (List (String × Bool))} {a : String × Bool}
      {rest : List (String × Bool)} {d : DependencySet} :
      Step ⟨before ++ (a :: rest) :: after, d⟩ ⟨before ++ rest :: after, d.add a.1 a.2⟩

/-- What writers can come to. -/
def Reaches : Writers → Writers → Prop :=
  Relation.ReflTransGen Step

/-- No writer has anything left to add. -/
def Finished (w : Writers) : Prop :=
  ∀ own ∈ w.pending, own = []

/-- These additions, in this order, have been made, and with those that are
still to be made they are all. -/
structure Accounts (all made : List (String × Bool)) (w : Writers) : Prop where
  accounted : (made ++ w.pending.flatten).Perm all
  dependencies_eq : w.dependencies = DependencySet.empty.addAll made

variable {w w' : Writers} {all made : List (String × Bool)}

/-- As long as a writer has something to add, there is a next addition. -/
theorem exists_step (h : ¬ w.Finished) : ∃ w', Step w w' := by
  obtain ⟨pending, d⟩ := w
  simp only [Finished, not_forall] at h
  obtain ⟨own, hown, hne⟩ := h
  obtain ⟨before, after, rfl⟩ := List.append_of_mem hown
  obtain ⟨a, rest, rfl⟩ := List.exists_cons_of_ne_nil hne
  exact ⟨_, .add⟩

theorem Step.length_lt (h : Step w w') :
    w'.pending.flatten.length < w.pending.flatten.length := by
  cases h
  simp only [List.flatten_append, List.flatten_cons, List.length_append, List.length_cons]
  omega

/-- Writers come to their end. -/
theorem exists_reaches_finished (w : Writers) : ∃ w', Reaches w w' ∧ w'.Finished := by
  induction hn : w.pending.flatten.length using Nat.strongRecOn generalizing w with
  | ind n ih =>
    by_cases h : w.Finished
    · exact ⟨w, Relation.ReflTransGen.refl, h⟩
    · obtain ⟨next, hs⟩ := exists_step h
      obtain ⟨w', hreach, hw'⟩ := ih _ (hn ▸ hs.length_lt) next rfl
      exact ⟨w', Relation.ReflTransGen.head hs hreach, hw'⟩

/-- **Step lemma**: the addition of a writer comes behind those made. -/
theorem Accounts.step (h : Accounts all made w) (hs : Step w w') :
    ∃ a, Accounts all (made ++ [a]) w' := by
  obtain ⟨haccounted, hdeps⟩ := h
  cases hs with
  | @add before after a rest d =>
    refine ⟨a, ?_, ?_⟩
    · refine List.Perm.trans ?_ haccounted
      simp only [List.flatten_append, List.flatten_cons, List.append_assoc, List.cons_append,
        List.nil_append]
      exact List.Perm.append_left _ List.perm_middle.symm
    · rw [DependencySet.addAll_append, ← hdeps]
      rfl

/-- **Run lemma**: at every moment the additions made so far account for
the set. -/
theorem exists_accounts_of_reaches {start : List (List (String × Bool))}
    (h : Reaches ⟨start, .empty⟩ w) : ∃ made, Accounts start.flatten made w := by
  induction h with
  | refl => exact ⟨[], by simp, rfl⟩
  | tail _ hs ih =>
    obtain ⟨made, hmade⟩ := ih
    obtain ⟨a, ha⟩ := hmade.step hs
    exact ⟨made ++ [a], ha⟩

/-- Writers that are finished have made their additions in some order. -/
theorem exists_perm_of_finished {start : List (List (String × Bool))}
    (h : Reaches ⟨start, .empty⟩ w) (hw : w.Finished) :
    ∃ made, made.Perm start.flatten ∧ w.dependencies = DependencySet.empty.addAll made := by
  obtain ⟨made, haccounted, hdeps⟩ := exists_accounts_of_reaches h
  have hnone : w.pending.flatten = [] := List.flatten_eq_nil_iff.mpr hw
  exact ⟨made, by simpa [hnone] using haccounted, hdeps⟩

end Writers

/-! ## §4 The whole state -/

/-- After any additions to an empty set, its strengths, its order, its number
and its sorted list are read off the additions. What was added before keeps
its place, whatever is added later. Additions in another order, such as
those of several writers that take turns in any way, change nothing but the
order of the modules. -/
theorem history_settles_dependencies (xs : List (String × Bool)) :
    (DependencySet.empty.addAll xs).Reflects xs ∧
      (∀ before after, xs = before ++ after →
        (DependencySet.empty.addAll before).modules <+:
          (DependencySet.empty.addAll xs).modules) ∧
      (∀ ys : List (String × Bool), ys.Perm xs →
        (DependencySet.empty.addAll ys).SameButOrder (DependencySet.empty.addAll xs)) ∧
      ∀ start : List (List (String × Bool)), start.flatten.Perm xs →
        (∃ w, Writers.Reaches ⟨start, .empty⟩ w ∧ w.Finished) ∧
          ∀ w, Writers.Reaches ⟨start, .empty⟩ w → w.Finished →
            (∃ ys, ys.Perm xs ∧ w.dependencies = DependencySet.empty.addAll ys) ∧
              w.dependencies.SameButOrder (DependencySet.empty.addAll xs) := by
  refine ⟨DependencySet.reflects_addAll xs, ?_, fun ys h => DependencySet.sameButOrder_addAll h,
    fun start hstart => ⟨Writers.exists_reaches_finished _, fun w hreach hdone => ?_⟩⟩
  · rintro before after rfl
    rw [DependencySet.addAll_append]
    exact DependencySet.modules_prefix_addAll _ _
  · obtain ⟨made, hmade, hdeps⟩ := Writers.exists_perm_of_finished hreach hdone
    have hperm : made.Perm xs := hmade.trans hstart
    rw [hdeps]
    exact ⟨⟨made, hperm, rfl⟩, DependencySet.sameButOrder_addAll hperm⟩

end ManifestDeps
