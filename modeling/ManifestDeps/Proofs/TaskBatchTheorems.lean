/-
ManifestDeps.Proofs.TaskBatchTheorems — repeated and failing components do
not get in each other's way.

A task only ever touches the module that it was given. So there are four
states in which a task of a component can be found (`AnalysisTask.Sound`),
none of which depends on any other task, and the last of which is the
analysis of the component alone. `AnalysisTask.Sound.step` is the step
lemma for one task, `TaskBatch.Invariant.step` carries it to a batch, and
`TaskBatch.invariant_of_reaches` to every run. The register is made once and
never changed; it has each name in the order of first occurrence, and leads
to a task of this name (`TaskBatch.registers_start`), whichever it is.

Every step brings a batch closer to its end (`TaskBatch.Step.remaining_lt`),
and a batch that is not done can go on under every limit
(`TaskBatch.exists_step`).
-/
import ManifestDeps.Proofs.ReportTheorems
import ManifestDeps.TaskBatch

namespace ManifestDeps

/-! ## §1 Registers -/

namespace Table

variable {α : Type}

theorem keys_put (t : Table α) (name : String) (a : α) :
    (put t name a).map Prod.fst =
      if name ∈ t.map Prod.fst then t.map Prod.fst else t.map Prod.fst ++ [name] := by
  induction t with
  | nil => rfl
  | cons e rest ih =>
    obtain ⟨n, b⟩ := e
    by_cases hn : n = name
    · simp [put, hn]
    · have hname : ¬ name = n := fun h => hn h.symm
      simp only [put, if_neg hn, List.map_cons, ih, List.mem_cons, hname, false_or]
      split <;> rfl

theorem mem_of_mem_put {t : Table α} {name : String} {a : α} {e : String × α}
    (h : e ∈ put t name a) : e ∈ t ∨ e = (name, a) := by
  induction t with
  | nil => exact .inr (List.mem_singleton.mp h)
  | cons f rest ih =>
    obtain ⟨n, b⟩ := f
    rw [put] at h
    split at h
    · rename_i hn
      rcases List.mem_cons.mp h with rfl | hmem
      · exact .inr (by rw [hn])
      · exact .inl (List.mem_cons_of_mem _ hmem)
    · rcases List.mem_cons.mp h with rfl | hmem
      · exact .inl List.mem_cons_self
      · exact (ih hmem).imp_left (List.mem_cons_of_mem _)

end Table

namespace TaskBatch

/-- A register of a list: it has each name once, in the order of first
occurrence, and leads to a place where the name stands. -/
structure Registers (register : Table Nat) (cs : List String) : Prop where
  names_eq : register.map Prod.fst = cs.eraseDups
  component_eq : ∀ e ∈ register, cs[e.2]? = some e.1

theorem start_concat (cs : List String) (c : String) : start (cs ++ [c]) = (start cs).add c := by
  rw [start, List.foldl_append]
  rfl

theorem tasks_start (cs : List String) : (start cs).tasks = cs.map AnalysisTask.fresh := by
  induction cs using List.reverseRecOn with
  | nil => rfl
  | append_singleton before c ih => rw [start_concat, add, ih, List.map_append, List.map_singleton]

theorem reports_start (cs : List String) : (start cs).reports = [] := by
  induction cs using List.reverseRecOn with
  | nil => rfl
  | append_singleton before c ih => rw [start_concat, add, ih]

theorem registers_start (cs : List String) : Registers (start cs).register cs := by
  induction cs using List.reverseRecOn with
  | nil => exact ⟨rfl, by simp [start]⟩
  | append_singleton before c ih =>
    have hlength : (start before).tasks.length = before.length := by
      rw [tasks_start, List.length_map]
    rw [start_concat, add, hlength]
    refine ⟨?_, fun e he => ?_⟩
    · rw [Table.keys_put, ih.names_eq, Table.eraseDups_concat]
      simp only [List.mem_eraseDups]
    · rcases Table.mem_of_mem_put he with hmem | rfl
      · have hc := ih.component_eq e hmem
        obtain ⟨hlt, -⟩ := List.getElem?_eq_some_iff.mp hc
        rw [List.getElem?_append_left hlt, hc]
      · exact List.getElem?_concat_length

end TaskBatch

/-! ## §2 One task -/

namespace AnalysisTask

variable {a : Analyzer} {t t' : AnalysisTask} {new : List Diagnostic}

/-- How a task of a component can be found: with an empty module and what
the pool holds, or with the analysis of the component alone. -/
inductive Sound (a : Analyzer) : AnalysisTask → Prop where
  | waiting (c : String) : Sound a ⟨c, .waiting, { name := some c }⟩
  | loading (c : String) : Sound a ⟨c, .loading, { name := some c }⟩
  | loaded (c : String) : Sound a ⟨c, .loaded (a.pool.load c), { name := some c }⟩
  | settled (c : String) : Sound a ⟨c, .settled, a.analyzeInto c { name := some c }⟩

/-- **Step lemma** for a task. -/
theorem Sound.step (h : t.Sound a) (hs : t.Step a t' new) : t'.Sound a := by
  cases hs with
  | start =>
    cases h with
    | waiting => exact .loading _
  | load =>
    cases h with
    | loading => exact .loaded _
  | settle =>
    cases h with
    | loaded =>
      rw [a.settle_load]
      exact .settled _

theorem Sound.info_eq (h : t.Sound a) (hdone : t.phase.isSettled = true) :
    t.info = a.analyzeInto t.component { name := some t.component } := by
  cases h with
  | settled c => rfl
  | _ => cases hdone

theorem Step.component_eq (hs : t.Step a t' new) : t'.component = t.component := by
  cases hs <;> rfl

/-- A task reports when it is settled: what its component reports. -/
theorem Sound.step_reports (h : t.Sound a) (hs : t.Step a t' new) :
    t.phase.isSettled = false ∧
      new = if t'.phase.isSettled then a.reports t.component else [] := by
  cases hs with
  | start => exact ⟨rfl, rfl⟩
  | load => exact ⟨rfl, rfl⟩
  | settle =>
    cases h with
    | loaded =>
      rw [a.settle_load]
      exact ⟨rfl, rfl⟩

/-- The number of steps that are left. -/
def remaining (t : AnalysisTask) : Nat :=
  match t.phase with
  | .waiting => 3
  | .loading => 2
  | .loaded _ => 1
  | .settled => 0

theorem Step.remaining_lt (hs : t.Step a t' new) : t'.remaining < t.remaining := by
  cases hs <;> simp [remaining]

/-- A task that is not settled can go on. -/
theorem exists_step (a : Analyzer) (h : t.phase.isSettled = false) :
    ∃ t' new, t.Step a t' new := by
  obtain ⟨c, phase, info⟩ := t
  cases phase with
  | waiting => exact ⟨_, _, .start⟩
  | loading => exact ⟨_, _, .load⟩
  | loaded x => exact ⟨_, _, .settle⟩
  | settled => cases h

end AnalysisTask

/-! ## §3 The runs of a batch -/

namespace TaskBatch

/-- What a batch can come to. -/
def Reaches (a : Analyzer) (maxConcurrency : Option Int) : TaskBatch → TaskBatch → Prop :=
  Relation.ReflTransGen (Step a maxConcurrency)

variable {a : Analyzer} {k : Option Int} {b b' : TaskBatch} {cs : List String}

/-- The components of the tasks that are settled. -/
def settled (b : TaskBatch) : List String :=
  (b.tasks.filter fun t => t.phase.isSettled).map AnalysisTask.component

/-- There is a task for each component of the list, which is found in one of
its four states, and the reports are those of the settled tasks. -/
structure Invariant (a : Analyzer) (cs : List String) (b : TaskBatch) : Prop where
  components_eq : b.tasks.map AnalysisTask.component = cs
  sound : ∀ t ∈ b.tasks, t.Sound a
  registers : Registers b.register cs
  records : a.Records b.settled b.reports

theorem Invariant.start (a : Analyzer) (cs : List String) :
    Invariant a cs (TaskBatch.start cs) where
  components_eq := by
    rw [tasks_start, List.map_map]
    exact List.map_id _
  sound := by
    rw [tasks_start]
    intro t ht
    obtain ⟨c, -, rfl⟩ := List.mem_map.mp ht
    exact .waiting c
  registers := registers_start cs
  records := by
    have hnone : (cs.map AnalysisTask.fresh).filter (fun t => t.phase.isSettled) = [] := by
      rw [List.filter_eq_nil_iff]
      intro t ht
      obtain ⟨c, -, rfl⟩ := List.mem_map.mp ht
      exact Bool.false_ne_true
    rw [settled, tasks_start, hnone, reports_start]
    exact ⟨[], .refl _, rfl⟩

/-- **Step lemma.** -/
theorem Invariant.step (h : Invariant a cs b) (hs : Step a k b b') : Invariant a cs b' := by
  obtain ⟨hcomponents, hsound, hregisters, order, hperm, hreports⟩ := h
  cases hs with
  | @advance before after t t' new register reports hstep _ =>
    have ht : t.Sound a := hsound t (by simp)
    refine ⟨?_, ?_, hregisters, ?_⟩
    · rw [← hcomponents]
      simp [hstep.component_eq]
    · intro u hu
      rcases List.mem_append.mp hu with hu | hu
      · exact hsound u (List.mem_append_left _ hu)
      · rcases List.mem_cons.mp hu with rfl | hu
        · exact ht.step hstep
        · exact hsound u (List.mem_append_right _ (List.mem_cons_of_mem _ hu))
    · obtain ⟨hopen, rfl⟩ := ht.step_reports hstep
      simp only [settled, List.filter_append, List.filter_cons, hopen, List.map_append] at hperm
      cases hdone : t'.phase.isSettled with
      | false => exact ⟨order, by simpa [settled, hdone] using hperm, by simpa using hreports⟩
      | true =>
        refine ⟨order ++ [t.component], ?_, by simpa using hreports⟩
        simp only [settled, List.filter_append, List.filter_cons, hdone, List.map_append,
          if_true, List.map_cons, hstep.component_eq]
        exact (List.perm_append_singleton _ _).trans
          ((hperm.cons _).trans List.perm_middle.symm)

/-- **Run lemma.** -/
theorem invariant_of_reaches (h : Reaches a k (TaskBatch.start cs) b) : Invariant a cs b := by
  induction h with
  | refl => exact Invariant.start a cs
  | tail _ hs ih => exact ih.step hs

/-- The number of steps that are left. -/
def remaining (b : TaskBatch) : Nat :=
  (b.tasks.map AnalysisTask.remaining).sum

theorem Step.remaining_lt (h : Step a k b b') : b'.remaining < b.remaining := by
  cases h with
  | advance hstep _ =>
    have := hstep.remaining_lt
    simp only [remaining, List.map_append, List.map_cons, List.sum_append, List.sum_cons]
    omega

/-- A batch that is not done can go on. -/
theorem exists_step (a : Analyzer) (k : Option Int) (h : ¬ b.IsDone) : ∃ b', Step a k b b' := by
  obtain ⟨tasks, register, reports⟩ := b
  by_cases hidle : ∀ t ∈ tasks, t.phase.holdsSlot = false
  · -- no task is under way, so even a single slot is free
    have hinUse : inUse ⟨tasks, register, reports⟩ = 0 := by
      rw [inUse, List.countP_eq_zero]
      intro t ht
      simp [hidle t ht]
    have hfree : Batch.HasSlot k (inUse ⟨tasks, register, reports⟩) := by
      intro n _ hn
      rw [hinUse]
      omega
    obtain ⟨t, ht, hopen⟩ : ∃ t ∈ tasks, t.phase.isSettled = false := by
      simpa [IsDone] using h
    obtain ⟨t', new, hstep⟩ := AnalysisTask.exists_step a hopen
    obtain ⟨before, after, rfl⟩ := List.append_of_mem ht
    exact ⟨_, .advance hstep fun _ => hfree⟩
  · obtain ⟨t, ht, hholds⟩ : ∃ t ∈ tasks, t.phase.holdsSlot = true := by
      simpa using hidle
    have hopen : t.phase.isSettled = false := by
      cases hphase : t.phase with
      | settled =>
        rw [hphase] at hholds
        cases hholds
      | _ => rfl
    obtain ⟨t', new, hstep⟩ := AnalysisTask.exists_step a hopen
    obtain ⟨before, after, rfl⟩ := List.append_of_mem ht
    refine ⟨_, .advance hstep fun hfalse => ?_⟩
    rw [hholds] at hfalse
    cases hfalse

/-- From wherever it stands, a batch can be run to its end. -/
theorem exists_reaches_done (a : Analyzer) (k : Option Int) (b : TaskBatch) :
    ∃ b', Reaches a k b b' ∧ b'.IsDone := by
  induction hn : b.remaining using Nat.strongRecOn generalizing b with
  | ind n ih =>
    by_cases h : b.IsDone
    · exact ⟨b, Relation.ReflTransGen.refl, h⟩
    · obtain ⟨b', hs⟩ := exists_step a k h
      obtain ⟨b'', hreaches, hdone⟩ := ih b'.remaining (hn ▸ hs.remaining_lt) b' rfl
      exact ⟨b'', .head hs hreaches, hdone⟩

/-! ## §4 Where it ends -/

/-- The register leads to the module of a task of each name, and it does not
matter to which. -/
theorem Invariant.results_eq (h : Invariant a cs b) (hdone : b.IsDone) :
    b.results = cs.eraseDups.map fun c => (c, a.analyzeInto c { name := some c }) := by
  have hentry : ∀ e ∈ b.register,
      (b.tasks[e.2]?.map fun t => (e.1, t.info)) =
        some (e.1, a.analyzeInto e.1 { name := some e.1 }) := by
    intro e he
    have hplace := h.registers.component_eq e he
    rw [← h.components_eq, List.getElem?_map] at hplace
    obtain ⟨t, ht, hcomponent⟩ := Option.map_eq_some_iff.mp hplace
    have hmem : t ∈ b.tasks := List.mem_of_getElem? ht
    rw [ht, Option.map_some, (h.sound t hmem).info_eq (hdone t hmem), hcomponent]
  rw [results, List.filterMap_congr hentry, List.filterMap_eq_map', ← h.registers.names_eq,
    List.map_map]
  rfl

/-- When all tasks are settled, all have reported. -/
theorem Invariant.records_of_done (h : Invariant a cs b) (hdone : b.IsDone) :
    a.Records cs b.reports := by
  have hsettled : b.settled = cs := by
    rw [settled, List.filter_eq_self.mpr hdone, h.components_eq]
  rw [← hsettled]
  exact h.records

/-- No run goes on for ever. -/
theorem wellFounded_step (a : Analyzer) (k : Option Int) :
    WellFounded fun b' b => Step a k b b' :=
  Subrelation.wf (fun h => h.remaining_lt) (measure remaining).wf

end TaskBatch

open TaskBatch (Reaches Step)

/-- **Each component as if it were alone.** Components are given in any list,
with repetitions and with some that fail, and are analyzed side by side under
any limit. Every run comes to its end, where all tasks are settled. Then
there is one module for each name, in the order of first occurrence, and it
is the module of this name that the analysis of the component alone leaves
behind, with its modules, their strengths and their order; no other component
has to do with it. It is the same as one component after the other, and all
analyses have reported, each for itself. -/
theorem tasks_end_as_if_alone (a : Analyzer) (k : Option Int) (cs : List String) :
    let alone (c : String) : ModuleInfo := a.analyzeInto c { name := some c }
    (WellFounded fun b' b => Step a k b b') ∧
      (∀ b, Reaches a k (.start cs) b → b.IsDone ∨ ∃ b', Step a k b b') ∧
      ∀ b, Reaches a k (.start cs) b → b.IsDone →
        b.results = cs.eraseDups.map (fun c => (c, alone c)) ∧
          (∀ c ∈ cs, b.results.lookup c = some (alone c)) ∧
          (a.analyzeEach cs).1 = b.results.map (fun e => (e.1, e.2.dependencies)) ∧
          a.Records cs b.reports := by
  intro alone
  refine ⟨TaskBatch.wellFounded_step a k, fun b _ => ?_, fun b hreaches hdone => ?_⟩
  · by_cases hdone : b.IsDone
    · exact .inl hdone
    · exact .inr (TaskBatch.exists_step a k hdone)
  · have hinvariant := TaskBatch.invariant_of_reaches hreaches
    have hresults := hinvariant.results_eq hdone
    refine ⟨hresults, fun c hc => ?_, ?_, hinvariant.records_of_done hdone⟩
    · have hnames : (cs.eraseDups.map fun c => (c, alone c)).map Prod.fst = cs.eraseDups := by
        rw [List.map_map]
        exact List.map_id _
      have hdistinct : Table.DistinctNames (cs.eraseDups.map fun c => (c, alone c)) := by
        rw [Table.DistinctNames, hnames]
        exact Table.nodup_eraseDups cs
      rw [hresults, Table.lookup_eq_some_iff_mem hdistinct]
      exact List.mem_map_of_mem (List.mem_eraseDups.mpr hc)
    · rw [hresults, a.analyzeEach_eq, List.map_map]
      rfl

/-- A component that comes again behind one with a malformed descriptor, one at
a time: some run ends, and every run that ends leaves these two modules. -/
theorem tasks_end_as_if_alone_two :
    let files : Table Content :=
      [("a/manifest.json", .text "\x7b\"sap.ui5\":\x7b\"rootView\":\"V\"\x7d\x7d"),
        ("b/manifest.json", .text "")]
    let a : Analyzer := { pool := .ofTable files }
    let cs := ["a/Component.js", "b/Component.js", "a/Component.js"]
    ∃ b, Reaches a (some 1) (.start cs) b ∧ b.IsDone ∧
      b.results.map (fun e => (e.1, e.2.name, e.2.dependencies.entries)) =
        [("a/Component.js", some "a/Component.js", [("V.view.xml", .required)]),
          ("b/Component.js", some "b/Component.js", [])] := by
  intro files a cs
  obtain ⟨-, -, hends⟩ := tasks_end_as_if_alone a (some 1) cs
  obtain ⟨b, hreaches, hdone⟩ := TaskBatch.exists_reaches_done a (some 1) (.start cs)
  obtain ⟨hresults, -⟩ := hends b hreaches hdone
  refine ⟨b, hreaches, hdone, ?_⟩
  rw [hresults]
  decide +kernel

end ManifestDeps
