/-
ManifestDeps.Proofs.RepetitionTheorems — analyzing a component once more
changes nothing.

A set of dependencies `Extends` another one when all modules of that one
are in it, in the same places, and those that are required stay required.
Every addition extends the set it is made to, an upgrade among them. Sets
that extend each other are equal (`Extends.antisymm`), so that it is enough
to compare the order and what is required.

An addition is absorbed by a set that has its module at least as strongly;
it leaves such a set as it is. A set that extends another one absorbs what
that one absorbs, and after some additions all of them are absorbed, however
often they name a module and with whichever strengths. What an analysis adds
and reports does not depend on what was there before, so that an analysis
that is repeated makes additions that are absorbed, and the same reports
(`analyze_absorbs_repetition`).
-/
import ManifestDeps.Proofs.BatchTheorems
import ManifestDeps.Proofs.HistoryTheorems

namespace ManifestDeps

namespace DependencySet

variable {d e f : DependencySet} {xs : List (String × Bool)}

/-! ## §1 Sets that extend others -/

theorem contains_iff_mem_modules {m : String} : d.contains m = true ↔ m ∈ d.modules := by
  rw [contains, List.contains_iff_mem]

/-- A set lists its modules with their strengths. -/
theorem map_strength?_modules (d : DependencySet) :
    d.modules.map (fun m => (m, d.strength? m)) = d.entries.map fun x => (x.1, some x.2) := by
  rw [modules, List.map_map]
  refine List.map_congr_left ?_
  rintro ⟨m, s⟩ hx
  exact congrArg (Prod.mk m) (mem_entries_iff.mp hx)

/-- Sets with the same modules in the same order, and the same strengths,
are equal. -/
theorem eq_of_modules_eq (hm : d.modules = e.modules) (hs : ∀ m, d.strength? m = e.strength? m) :
    d = e := by
  have hmap : d.entries.map (fun x => (x.1, some x.2)) =
      e.entries.map fun x => (x.1, some x.2) := by
    rw [← map_strength?_modules, ← map_strength?_modules, hm]
    simp only [hs]
  have hinj : Function.Injective fun x : String × Strength => (x.1, some x.2) := by
    rintro ⟨m, s⟩ ⟨n, t⟩ h
    simpa using h
  have hentries : d.entries = e.entries := hinj.list_map hmap
  cases d
  cases e
  simpa using hentries

/-- A set has all modules of another one, in the same order and in front of
all others, and what is required there is required here. -/
structure Extends (e d : DependencySet) : Prop where
  modules_prefix : d.modules <+: e.modules
  stays_required : ∀ m, d.isRequired m = true → e.isRequired m = true

namespace Extends

theorem refl (d : DependencySet) : d.Extends d :=
  ⟨List.prefix_refl _, fun _ h => h⟩

theorem trans (h : f.Extends e) (h' : e.Extends d) : f.Extends d :=
  ⟨h'.modules_prefix.trans h.modules_prefix,
    fun m hm => h.stays_required m (h'.stays_required m hm)⟩

/-- No module is lost. -/
theorem contains (h : e.Extends d) {m : String} (hm : d.contains m = true) :
    e.contains m = true :=
  contains_iff_mem_modules.mpr (h.modules_prefix.subset (contains_iff_mem_modules.mp hm))

/-- **Sets that extend each other are equal.** -/
theorem antisymm (h : e.Extends d) (h' : d.Extends e) : d = e := by
  have hm : d.modules = e.modules :=
    h.modules_prefix.eq_of_length_le h'.modules_prefix.length_le
  refine eq_of_modules_eq hm fun m => ?_
  have hr : d.isRequired m = true ↔ e.isRequired m = true :=
    ⟨h.stays_required m, h'.stays_required m⟩
  have hc : d.contains m = true ↔ e.contains m = true := ⟨h.contains, h'.contains⟩
  rw [isRequired_iff, isRequired_iff] at hr
  rw [contains_iff, contains_iff] at hc
  revert hr hc
  rcases d.strength? m with _ | ⟨_ | _⟩ <;> rcases e.strength? m with _ | ⟨_ | _⟩ <;> simp

end Extends

/-- **Additions extend a set**: they move nothing and weaken nothing. -/
theorem extends_addAll (d : DependencySet) (xs : List (String × Bool)) :
    (d.addAll xs).Extends d :=
  ⟨d.modules_prefix_addAll xs, fun _ hm => isRequired_addAll.mpr (.inl hm)⟩

/-! ## §2 Additions that are absorbed -/

/-- A set has the module of an addition at least as strongly. -/
def Absorbs (d : DependencySet) (a : String × Bool) : Prop :=
  d.contains a.1 = true ∧ (a.2 = false → d.isRequired a.1 = true)

theorem Extends.absorbs {a : String × Bool} (h : e.Extends d) (ha : d.Absorbs a) :
    e.Absorbs a :=
  ⟨h.contains ha.1, fun hc => h.stays_required _ (ha.2 hc)⟩

/-- An addition that is absorbed leaves the set as it is. -/
theorem add_of_absorbs {a : String × Bool} (h : d.Absorbs a) : d.add a.1 a.2 = d := by
  refine (Extends.antisymm (d.extends_addAll [a]) ⟨?_, fun m hm => ?_⟩).symm
  · rw [addAll_cons, addAll_nil, modules_add, if_pos (contains_iff_mem_modules.mp h.1)]
  · rcases isRequired_addAll.mp hm with hm | hm
    · exact hm
    · cases List.mem_singleton.mp hm
      exact h.2 rfl

theorem addAll_of_absorbs (h : ∀ a ∈ xs, d.Absorbs a) : d.addAll xs = d := by
  induction xs with
  | nil => rfl
  | cons a rest ih =>
    rw [addAll_cons, add_of_absorbs (h a List.mem_cons_self)]
    exact ih fun b hb => h b (List.mem_cons_of_mem a hb)

/-- After some additions all of them are absorbed. -/
theorem absorbs_addAll (d : DependencySet) {a : String × Bool} (ha : a ∈ xs) :
    (d.addAll xs).Absorbs a := by
  obtain ⟨m, conditional⟩ := a
  refine ⟨contains_addAll.mpr (.inr ⟨conditional, ha⟩), ?_⟩
  rintro rfl
  exact isRequired_addAll.mpr (.inr ha)

/-- **What was added once is absorbed for good**, whatever is added after
it. -/
theorem addAll_of_extends (h : e.Extends (d.addAll xs)) : e.addAll xs = e :=
  addAll_of_absorbs fun _ ha => h.absorbs (d.absorbs_addAll ha)

/-- An upgrade is not undone when the weaker addition comes again. -/
example :
    let d := empty.addAll [("a", true), ("b", true), ("a", false)]
    d.entries = [("a", .required), ("b", .conditional)] ∧
      d.addAll [("a", true), ("b", true), ("a", false)] = d := by decide

end DependencySet

/-! ## §3 Analyzing a component again -/

/-- **Once is enough.** Whatever the pool, the rules, the component and the
dependencies that were there, an analysis extends them: every module stays,
in its place, and every required one stays required. Analyzed again, at once
or after other additions, the component adds nothing any more: the
dependencies stay exactly as they are, and the reports are those of the
first time. -/
theorem analyze_absorbs_repetition (a : Analyzer) (c : String) (d : DependencySet) :
    let o := a.analyze c d
    o.dependencies.Extends d ∧
      a.analyze c o.dependencies = o ∧
      ∀ e, e.Extends o.dependencies → a.analyze c e = ⟨e, o.reports⟩ := by
  intro o
  have hdependencies : o.dependencies = d.addAll (a.additions c) := a.analyze_dependencies c d
  have hagain : ∀ e, e.Extends o.dependencies → a.analyze c e = ⟨e, o.reports⟩ := by
    intro e he
    have hadds : (a.analyze c e).dependencies = e := by
      rw [a.analyze_dependencies]
      exact DependencySet.addAll_of_extends (hdependencies ▸ he)
    have hreports : (a.analyze c e).reports = o.reports := by
      show (a.analyze c e).reports = (a.analyze c d).reports
      rw [a.analyze_eq_outcome, a.analyze_eq_outcome]
      exact Course.outcome_reports c e d (a.course c)
    calc a.analyze c e = ⟨(a.analyze c e).dependencies, (a.analyze c e).reports⟩ := rfl
      _ = ⟨e, o.reports⟩ := by rw [hadds, hreports]
  refine ⟨?_, hagain _ (.refl _), hagain⟩
  rw [hdependencies]
  exact d.extends_addAll _

end ManifestDeps
