/-
ManifestDeps.Proofs.BatchTheorems — what a batch leaves behind does not
depend on how it runs.

At every moment of a batch, the components that are settled, taken in the
order of settling, account for all that was added and reported: `InOrder`
is the invariant and `InOrder.step` the step lemma. So a batch that is done
did what analyzing one component after the other does, in some order
(`exists_perm_of_ends`). What this leaves in the dependencies is read off
the single components, whatever their order and number.

Every batch can be run to its end under any limit (`exists_reaches_done`), one
component after the other is one of its runs (`ends_analyzeAll`), and no
more slots are in use than there are (`inUse_le_of_reaches`).
-/
import Mathlib.Data.List.Induction
import Mathlib.Logic.Relation
import ManifestDeps.Batch
import ManifestDeps.Proofs.AnalysisTheorems

namespace ManifestDeps

/-! ## §1 One component after the other -/

namespace Analyzer

variable {a : Analyzer}

/-- What analyzing a component adds. -/
def additions (a : Analyzer) (c : String) : List (String × Bool) :=
  (a.course c).additions

theorem analyze_dependencies (a : Analyzer) (c : String) (d : DependencySet) :
    (a.analyze c d).dependencies = d.addAll (a.additions c) := by
  rw [a.analyze_eq_outcome, Course.outcome_dependencies, additions]

theorem analyzeAll_concat (a : Analyzer) (cs : List String) (c : String) (d : DependencySet) :
    a.analyzeAll (cs ++ [c]) d = (a.analyzeAll cs d).andThen (a.analyze c) := by
  rw [analyzeAll, List.foldl_append]
  rfl

theorem analyzeAll_dependencies (a : Analyzer) (cs : List String) (d : DependencySet) :
    (a.analyzeAll cs d).dependencies = d.addAll (cs.flatMap a.additions) := by
  induction cs using List.reverseRecOn with
  | nil => rfl
  | append_singleton rest c ih =>
    rw [analyzeAll_concat, Outcome.andThen, analyze_dependencies, ih, List.flatMap_append,
      DependencySet.addAll_append]
    simp

/-- Settling what the pool holds for a component is analyzing it. -/
theorem settle_load (a : Analyzer) (c : String) (d : DependencySet) :
    a.settle c (a.pool.load c) d = a.analyze c d := rfl

end Analyzer

/-! ## §2 The runs of a batch -/

namespace Batch

/-- What a batch can come to. -/
def Reaches (a : Analyzer) (maxConcurrency : Option Int) : Batch → Batch → Prop :=
  Relation.ReflTransGen (Step a maxConcurrency)

variable {a : Analyzer} {k : Option Int} {b b' : Batch}

/-- The components that are settled, in this order, account for all that a
batch has done; the others are on their way, each with what the pool holds
for it. -/
structure InOrder (a : Analyzer) (components : List String) (d : DependencySet)
    (settled : List String) (b : Batch) : Prop where
  accounted :
    (settled ++ (b.loaded.map Prod.fst ++ (b.loading ++ b.waiting))).Perm components
  outcome_eq : b.outcome = a.analyzeAll settled d
  loaded_eq : ∀ e ∈ b.loaded, e.2 = a.pool.load e.1

theorem InOrder.initial (a : Analyzer) (cs : List String) (d : DependencySet) :
    InOrder a cs d [] (Batch.start cs d) where
  accounted := by simp [Batch.start]
  outcome_eq := rfl
  loaded_eq := by simp [Batch.start]

/-- **Step lemma**: only settling adds to the order. -/
theorem InOrder.step {cs settled : List String} {d : DependencySet}
    (h : InOrder a cs d settled b) (hs : Step a k b b') :
    ∃ more, InOrder a cs d (settled ++ more) b' := by
  obtain ⟨hperm, hout, hload⟩ := h
  cases hs with
  | @start before after c loading loaded o _ =>
    refine ⟨[], ?_, by simpa using hout, hload⟩
    refine List.Perm.trans ?_ hperm
    simp only [List.append_nil]
    refine List.Perm.append_left _ (List.Perm.append_left _ ?_)
    exact List.perm_middle.symm.trans (List.Perm.append_left _ List.perm_middle.symm)
  | @load waiting before after c loaded o =>
    refine ⟨[], ?_, by simpa using hout, ?_⟩
    · refine List.Perm.trans ?_ hperm
      simp only [List.append_nil, List.map_cons]
      refine List.Perm.append_left _ ?_
      simp only [List.cons_append, List.append_assoc]
      exact List.perm_middle.symm.trans (List.Perm.append_left _ List.perm_middle.symm)
    · intro e he
      rcases List.mem_cons.mp he with rfl | he
      · rfl
      · exact hload e he
  | @settle waiting loading c x before after o =>
    have hx : x = a.pool.load c := hload (c, x) (by simp)
    refine ⟨[c], ?_, ?_, fun e he => hload e (by
      rcases List.mem_append.mp he with he | he
      · exact List.mem_append_left _ he
      · exact List.mem_append_right _ (List.mem_cons_of_mem _ he))⟩
    · refine List.Perm.trans ?_ hperm
      simp only [List.map_append, List.map_cons, List.append_assoc, List.cons_append,
        List.nil_append]
      exact List.Perm.append_left _ List.perm_middle.symm
    · rw [Analyzer.analyzeAll_concat, ← hout, hx, funext (a.settle_load c)]

/-- **Run lemma**: a batch is at every moment in some order. -/
theorem exists_inOrder_of_reaches {cs : List String} {d : DependencySet}
    (h : Reaches a k (Batch.start cs d) b) : ∃ settled, InOrder a cs d settled b := by
  induction h with
  | refl => exact ⟨[], InOrder.initial a cs d⟩
  | tail _ hs ih =>
    obtain ⟨settled, hin⟩ := ih
    obtain ⟨more, hin'⟩ := hin.step hs
    exact ⟨settled ++ more, hin'⟩

end Batch

/-- A batch of components can end in an outcome. -/
def Analyzer.Ends (a : Analyzer) (maxConcurrency : Option Int) (components : List String)
    (d : DependencySet) (o : Outcome) : Prop :=
  Batch.Reaches a maxConcurrency (Batch.start components d) (Batch.done o)

/-- A batch that ended has analyzed its components one after the other, in
some order. -/
theorem exists_perm_of_ends {a : Analyzer} {k : Option Int} {cs : List String}
    {d : DependencySet} {o : Outcome} (h : a.Ends k cs d o) :
    ∃ order, order.Perm cs ∧ o = a.analyzeAll order d := by
  obtain ⟨order, hperm, hout, -⟩ := Batch.exists_inOrder_of_reaches h
  exact ⟨order, by simpa [Batch.done] using hperm, hout⟩

/-! ## §3 Batches come to their end -/

namespace Batch

variable {a : Analyzer} {k : Option Int} {b b' : Batch}

/-- What is still to be done in a batch. -/
def toDo (b : Batch) : Nat :=
  3 * b.waiting.length + 2 * b.loading.length + b.loaded.length

theorem Step.toDo_lt (h : Step a k b b') : b'.toDo < b.toDo := by
  cases h <;> simp only [toDo, List.length_append, List.length_cons] <;> omega

/-- A batch in which something is to be done can go on. -/
theorem exists_step (h : b.toDo ≠ 0) : ∃ b', Step a k b b' := by
  obtain ⟨waiting, loading, loaded, o⟩ := b
  cases loaded with
  | cons e rest => exact ⟨_, @Step.settle a k waiting loading e.1 e.2 [] rest o⟩
  | nil =>
    cases loading with
    | cons c rest => exact ⟨_, @Step.load a k waiting [] rest c [] o⟩
    | nil =>
      cases waiting with
      | nil => simp [toDo] at h
      | cons c rest =>
        -- no analysis is under way, so even a single slot is free
        refine ⟨_, @Step.start a k [] rest c [] [] o ?_⟩
        intro n _ hn
        simp only [List.length_nil]
        omega

theorem eq_done_of_toDo_eq_zero (h : b.toDo = 0) : b = Batch.done b.outcome := by
  obtain ⟨waiting, loading, loaded, o⟩ := b
  simp only [toDo] at h
  obtain rfl : waiting = [] := List.length_eq_zero_iff.mp (by omega)
  obtain rfl : loading = [] := List.length_eq_zero_iff.mp (by omega)
  obtain rfl : loaded = [] := List.length_eq_zero_iff.mp (by omega)
  rfl

/-- From wherever it stands, a batch can be run to its end. -/
theorem exists_reaches_done (a : Analyzer) (k : Option Int) (b : Batch) :
    ∃ o, Reaches a k b (Batch.done o) := by
  induction hn : b.toDo using Nat.strongRecOn generalizing b with
  | ind n ih =>
    by_cases h : b.toDo = 0
    · refine ⟨b.outcome, ?_⟩
      rw [← eq_done_of_toDo_eq_zero h]
      exact Relation.ReflTransGen.refl
    · obtain ⟨b', hs⟩ := exists_step (a := a) (k := k) h
      obtain ⟨o, ho⟩ := ih b'.toDo (hn ▸ hs.toDo_lt) b' rfl
      exact ⟨o, Relation.ReflTransGen.head hs ho⟩

/-- One component after the other is a run under every limit. -/
theorem reaches_foldl (a : Analyzer) (k : Option Int) (cs : List String) (o : Outcome) :
    Reaches a k ⟨cs, [], [], o⟩
      (Batch.done (cs.foldl (fun o c => o.andThen (a.analyze c)) o)) := by
  induction cs generalizing o with
  | nil => exact Relation.ReflTransGen.refl
  | cons c rest ih =>
    have hfree : HasSlot k (([] : List String).length +
        ([] : List (String × Except Failure Loaded)).length) := by
      intro n _ hn
      simp only [List.length_nil]
      omega
    have hstart : Step a k ⟨c :: rest, [], [], o⟩ ⟨rest, [c], [], o⟩ :=
      @Step.start a k [] rest c [] [] o hfree
    have hload : Step a k ⟨rest, [c], [], o⟩ ⟨rest, [], [(c, a.pool.load c)], o⟩ :=
      @Step.load a k rest [] [] c [] o
    have hsettle : Step a k ⟨rest, [], [(c, a.pool.load c)], o⟩
        ⟨rest, [], [], o.andThen (a.settle c (a.pool.load c))⟩ :=
      @Step.settle a k rest [] c _ [] [] o
    exact .head hstart (.head hload (.head hsettle (ih _)))

/-- A limit that is one is kept. -/
theorem Step.inUse_le {n : Int} (hk : k = some n) (hn : 1 ≤ n) (h : Step a k b b')
    (hb : (b.inUse : Int) ≤ n) : (b'.inUse : Int) ≤ n := by
  cases h with
  | start hslot =>
    have := hslot n hk hn
    simp only [inUse, List.length_cons] at hb ⊢
    omega
  | load =>
    simp only [inUse, List.length_append, List.length_cons] at hb ⊢
    omega
  | settle =>
    simp only [inUse, List.length_append, List.length_cons] at hb ⊢
    omega

/-- **Limit**: no more slots are ever in use than there are. -/
theorem inUse_le_of_reaches {n : Int} (hn : 1 ≤ n) {cs : List String} {d : DependencySet}
    (h : Reaches a (some n) (Batch.start cs d) b) : (b.inUse : Int) ≤ n := by
  induction h with
  | refl => simp only [inUse, Batch.start, List.length_nil]; omega
  | tail _ hs ih => exact hs.inUse_le rfl hn ih

end Batch

theorem Analyzer.ends_analyzeAll (a : Analyzer) (k : Option Int) (cs : List String)
    (d : DependencySet) : a.Ends k cs d (a.analyzeAll cs d) :=
  Batch.reaches_foldl a k cs ⟨d, []⟩

/-! ## §4 What a batch leaves behind -/

namespace Analyzer

variable {a : Analyzer} {c m : String} {d : DependencySet}

theorem isRequired_analyze_empty :
    (a.analyze c .empty).dependencies.isRequired m = true ↔ (m, false) ∈ a.additions c := by
  simp [analyze_dependencies, DependencySet.isRequired_addAll]

theorem contains_analyze_empty :
    (a.analyze c .empty).dependencies.contains m = true ↔ ∃ x, (m, x) ∈ a.additions c := by
  simp [analyze_dependencies, DependencySet.contains_addAll]

/-- **Required** after a list of components: before, or by one of them
alone. -/
theorem isRequired_analyzeAll {cs : List String} :
    (a.analyzeAll cs d).dependencies.isRequired m = true ↔
      d.isRequired m = true ∨
        ∃ c ∈ cs, (a.analyze c .empty).dependencies.isRequired m = true := by
  simp only [analyzeAll_dependencies, DependencySet.isRequired_addAll, List.mem_flatMap,
    isRequired_analyze_empty]

/-- **There** after a list of components: before, or by one of them alone. -/
theorem contains_analyzeAll {cs : List String} :
    (a.analyzeAll cs d).dependencies.contains m = true ↔
      d.contains m = true ∨
        ∃ c ∈ cs, (a.analyze c .empty).dependencies.contains m = true := by
  simp only [analyzeAll_dependencies, DependencySet.contains_addAll, List.mem_flatMap,
    contains_analyze_empty]
  constructor
  · rintro (hd | ⟨x, c, hc, hx⟩)
    · exact .inl hd
    · exact .inr ⟨c, hc, x, hx⟩
  · rintro (hd | ⟨c, hc, x, hx⟩)
    · exact .inl hd
    · exact .inr ⟨x, c, hc, hx⟩

/-- **Conditional** after a list of components: not required, and before or
by one of them alone. -/
theorem isConditional_analyzeAll {cs : List String} :
    (a.analyzeAll cs d).dependencies.isConditional m = true ↔
      ¬ (a.analyzeAll cs d).dependencies.isRequired m = true ∧
        (d.isConditional m = true ∨
          ∃ c ∈ cs, (a.analyze c .empty).dependencies.isConditional m = true) := by
  rw [DependencySet.isConditional_iff_contains, and_comm]
  refine and_congr_right fun hreq => ?_
  rw [contains_analyzeAll]
  rw [isRequired_analyzeAll, not_or, not_exists] at hreq
  obtain ⟨hd, hcs⟩ := hreq
  refine or_congr ?_ (exists_congr fun c => and_congr_right fun hc => ?_)
  · rw [DependencySet.isConditional_iff_contains]
    exact (and_iff_left hd).symm
  · rw [DependencySet.isConditional_iff_contains]
    exact (and_iff_left fun h => hcs c ⟨hc, h⟩).symm

/-- The analysis of a component adds something. -/
def Contributes (a : Analyzer) (c : String) : Prop :=
  (a.analyze c .empty).dependencies ≠ .empty

theorem not_contributes_iff : ¬ a.Contributes c ↔ a.additions c = [] := by
  rw [Contributes, not_not, analyze_dependencies]
  constructor
  · intro h
    cases hx : a.additions c with
    | nil => rfl
    | cons x rest =>
      have hin : (DependencySet.empty.addAll (a.additions c)).contains x.1 = true := by
        rw [DependencySet.contains_addAll, hx]
        exact .inr ⟨x.2, List.mem_cons_self⟩
      rw [h] at hin
      cases hin
  · intro h
    rw [h]
    rfl

/-- Only a component all of whose rules gave their outcome adds anything. -/
theorem not_contributes_of_takes {k : Course} (hk : a.Takes c k)
    (hne : ∀ rs, k ≠ .derived rs) : ¬ a.Contributes c := by
  rw [not_contributes_iff, additions, takes_iff.mp hk]
  cases k with
  | derived rs => exact absurd rfl (hne rs)
  | _ => rfl

theorem contributes_of_mem {x : String × Bool} (hx : x ∈ a.additions c) :
    a.Contributes c := by
  by_contra hc
  rw [not_contributes_iff.mp hc] at hx
  cases hx

/-- Two lists name the same components, but for some whose analysis adds
nothing. -/
def SameContributors (a : Analyzer) (cs cs' : List String) : Prop :=
  ∀ c, a.Contributes c → (c ∈ cs ↔ c ∈ cs')

theorem SameContributors.sorted_analyzeAll {cs cs' : List String}
    (h : a.SameContributors cs cs') (d : DependencySet) :
    (a.analyzeAll cs d).dependencies.sorted = (a.analyzeAll cs' d).dependencies.sorted := by
  rw [analyzeAll_dependencies, analyzeAll_dependencies]
  apply DependencySet.sorted_addAll_congr
  intro x
  simp only [List.mem_flatMap]
  exact exists_congr fun c => and_congr_left fun hx => h c (contributes_of_mem hx)

/-- A batch that ended has the sorted list of one component after the
other. -/
theorem Ends.sorted_eq {k : Option Int} {cs : List String} {o : Outcome}
    (h : a.Ends k cs d o) :
    o.dependencies.sorted = (a.analyzeAll cs d).dependencies.sorted := by
  obtain ⟨order, hperm, rfl⟩ := exists_perm_of_ends h
  exact SameContributors.sorted_analyzeAll (fun c _ => hperm.mem_iff) d

end Analyzer

/-- **Order of analyses**: a batch can end under every limit, one component
after the other is one way, and every way to end leaves the same. A module
is required if it was, or if one of the components alone requires it; it is
conditional if it is not required, and was conditional or is so for one of
the components alone; else it is not there. So the sorted list is the same
for every order in which the analyses are settled, every limit, and every
other list with the same contributors: a permutation, one with other
repetitions, one without components that add nothing. Those are all that
are exempt, missing, malformed or failed. -/
theorem batch_joins_components (a : Analyzer) (k : Option Int) (d : DependencySet)
    (cs : List String) :
    a.Ends k cs d (a.analyzeAll cs d) ∧
      (∀ b, Batch.Reaches a k (Batch.start cs d) b → ∃ o, Batch.Reaches a k b (Batch.done o)) ∧
      (∀ o, a.Ends k cs d o →
        (∀ m, o.dependencies.isRequired m = true ↔
          d.isRequired m = true ∨
            ∃ c ∈ cs, (a.analyze c .empty).dependencies.isRequired m = true) ∧
        (∀ m, o.dependencies.isConditional m = true ↔
          ¬ o.dependencies.isRequired m = true ∧
            (d.isConditional m = true ∨
              ∃ c ∈ cs, (a.analyze c .empty).dependencies.isConditional m = true)) ∧
        (∀ m, ¬ o.dependencies.contains m = true ↔
          ¬ o.dependencies.isRequired m = true ∧ ¬ o.dependencies.isConditional m = true) ∧
        (∀ k' cs' o', a.SameContributors cs cs' → a.Ends k' cs' d o' →
          o'.dependencies.sorted = o.dependencies.sorted)) ∧
      (∀ cs', cs.Perm cs' → a.SameContributors cs cs') ∧
      (∀ cs', (∀ c, c ∈ cs ↔ c ∈ cs') → a.SameContributors cs cs') ∧
      (∀ p : String → Bool, (∀ c ∈ cs, p c = false → ¬ a.Contributes c) →
        a.SameContributors cs (cs.filter p)) ∧
      (∀ c course, a.Takes c course → (∀ rs, course ≠ .derived rs) → ¬ a.Contributes c) := by
  refine ⟨a.ends_analyzeAll k cs d, fun b _ => Batch.exists_reaches_done a k b, ?_,
    fun cs' hp c _ => hp.mem_iff, fun cs' h c _ => h c, ?_,
    fun c course hk hne => Analyzer.not_contributes_of_takes hk hne⟩
  · intro o ho
    refine ⟨fun m => ?_, fun m => ?_, fun m => ?_, fun k' cs' o' hs ho' => ?_⟩
    · obtain ⟨order, hperm, rfl⟩ := exists_perm_of_ends ho
      rw [Analyzer.isRequired_analyzeAll]
      simp only [hperm.mem_iff]
    · obtain ⟨order, hperm, rfl⟩ := exists_perm_of_ends ho
      rw [Analyzer.isConditional_analyzeAll]
      simp only [hperm.mem_iff]
    · rw [DependencySet.contains_iff_required_or_conditional, not_or]
    · rw [ho'.sorted_eq, ho.sorted_eq]
      exact (hs.sorted_analyzeAll d).symm
  · intro p hp c hc
    rw [List.mem_filter]
    refine ⟨fun hmem => ⟨hmem, ?_⟩, fun h => h.1⟩
    by_contra hpc
    exact hp c hmem (Bool.eq_false_iff.mpr hpc) hc

end ManifestDeps
