/-
ManifestDeps.Proofs.SeparateBatchTheorems — components side by side, each
with dependencies of its own.

Two things are read off a separate batch. Forgetting whose dependencies are
whose, it is a batch (`SeparateBatch.Step.exists_merged`), so that its
reports are those of its components, each analysis for itself, in the order
of settling. And the dependencies of a component are those of its analysis
alone once it is no longer under way: `Invariant` says so, and
`Invariant.step` is the step lemma. Together, every way to end leaves the
results of one component after the other, and the same reports in some
order (`SeparateBatch.eq_of_ends`).
-/
import ManifestDeps.Proofs.ReportTheorems

namespace ManifestDeps

/-! ## §1 Results by component -/

namespace Analyzer

theorem foldl_setResult_empty (cs : List String) :
    cs.foldl (fun results c => setResult results c .empty) [] =
      cs.eraseDups.map fun c => (c, DependencySet.empty) := by
  induction cs using List.reverseRecOn with
  | nil => rfl
  | append_singleton before c ih =>
    rw [List.foldl_append, List.foldl_cons, List.foldl_nil, ih,
      setResult_map fun _ => DependencySet.empty, Table.eraseDups_concat]
    simp only [List.mem_eraseDups]

/-- Setting the result of one of the names replaces it. -/
theorem setResult_update (f : String → DependencySet) {names : List String} {c : String}
    (hc : c ∈ names) (hn : names.Nodup) (d : DependencySet) :
    setResult (names.map fun n => (n, f n)) c d =
      names.map fun n => (n, if n = c then d else f n) := by
  induction names with
  | nil => cases hc
  | cons n rest ih =>
    obtain ⟨hnotMem, hrest⟩ := List.nodup_cons.mp hn
    by_cases hnc : n = c
    · subst hnc
      have hsame : ∀ m ∈ rest, (if m = n then d else f m) = f m := by
        intro m hm
        rw [if_neg]
        rintro rfl
        exact hnotMem hm
      simp only [List.map_cons, setResult, if_true]
      exact congrArg _ (List.map_congr_left fun m hm => by rw [hsame m hm])
    · have hmem : c ∈ rest := (List.mem_cons.mp hc).resolve_left fun heq => hnc heq.symm
      simp only [List.map_cons, setResult, if_neg hnc, ih hmem hrest]

/-- What an analysis reports once its manifest was found or not does not
depend on the dependencies it adds to. -/
theorem settle_reports (a : Analyzer) (c : String) (x : Except Failure Loaded)
    (d e : DependencySet) : (a.settle c x d).reports = (a.settle c x e).reports := by
  rcases x with f | (_ | r | m)
  · rfl
  · rfl
  · rfl
  · simp only [settle, Manifest.derive]
    cases deriveAll a.rules m <;> rfl

end Analyzer

/-! ## §2 The runs of a separate batch -/

namespace SeparateBatch

/-- What a separate batch can come to. -/
def Reaches (a : Analyzer) (maxConcurrency : Option Int) :
    SeparateBatch → SeparateBatch → Prop :=
  Relation.ReflTransGen (Step a maxConcurrency)

/-- A separate batch of components can end with these results and
reports. -/
def Ends (a : Analyzer) (maxConcurrency : Option Int) (components : List String)
    (results : List (String × DependencySet)) (reports : List Diagnostic) : Prop :=
  Reaches a maxConcurrency (start components) (done results reports)

variable {a : Analyzer} {k : Option Int} {b b' : SeparateBatch} {cs : List String}

/-- The batch in which all add to the same dependencies. -/
def merged (b : SeparateBatch) (d : DependencySet) : Batch :=
  ⟨b.waiting, b.loading, b.loaded, ⟨d, b.reports⟩⟩

theorem Step.exists_merged (h : Step a k b b') (d : DependencySet) :
    ∃ d', Batch.Step a k (b.merged d) (b'.merged d') := by
  cases h with
  | start hslot => exact ⟨d, .start hslot⟩
  | load => exact ⟨d, .load⟩
  | @settle waiting loading c x before after results reports =>
    refine ⟨(a.settle c x d).dependencies, ?_⟩
    have hstep := @Batch.Step.settle a k waiting loading c x before after ⟨d, reports⟩
    rw [Outcome.andThen, a.settle_reports c x d .empty] at hstep
    exact hstep

/-- The reports are those of a batch. -/
theorem exists_merged_of_reaches (h : Reaches a k (start cs) b) :
    ∃ d, Batch.Reaches a k (Batch.start cs .empty) (b.merged d) := by
  induction h with
  | refl => exact ⟨.empty, Relation.ReflTransGen.refl⟩
  | tail _ hs ih =>
    obtain ⟨d, hd⟩ := ih
    obtain ⟨d', hd'⟩ := hs.exists_merged d
    exact ⟨d', hd.tail hd'⟩

/-- The analysis of this component is not settled. -/
def UnderWay (b : SeparateBatch) (c : String) : Prop :=
  c ∈ b.waiting ∨ c ∈ b.loading ∨ ∃ e ∈ b.loaded, e.1 = c

/-- What was found is what the pool holds, and a component that is not under
way has the dependencies of its analysis alone. -/
structure Invariant (a : Analyzer) (cs : List String) (b : SeparateBatch) : Prop where
  loaded_eq : ∀ e ∈ b.loaded, e.2 = a.pool.load e.1
  underWay_mem : ∀ c, b.UnderWay c → c ∈ cs
  results_eq : ∃ f : String → DependencySet,
    b.results = cs.eraseDups.map (fun c => (c, f c)) ∧
      ∀ c ∈ cs, b.UnderWay c ∨ f c = (a.analyze c .empty).dependencies

theorem Invariant.start (a : Analyzer) (cs : List String) :
    Invariant a cs (SeparateBatch.start cs) where
  loaded_eq := by simp [SeparateBatch.start]
  underWay_mem := by simp [SeparateBatch.start, UnderWay]
  results_eq := ⟨fun _ => .empty, Analyzer.foldl_setResult_empty cs, fun c hc => .inl (.inl hc)⟩

/-- **Step lemma.** -/
theorem Invariant.step (h : Invariant a cs b) (hs : Step a k b b') : Invariant a cs b' := by
  obtain ⟨hloaded, hmem, f, hresults, hf⟩ := h
  cases hs with
  | @start before after c loading loaded results reports _ =>
    have hway (n : String) :
        UnderWay ⟨before ++ after, c :: loading, loaded, results, reports⟩ n ↔
          UnderWay ⟨before ++ c :: after, loading, loaded, results, reports⟩ n := by
      simp only [UnderWay, List.mem_append, List.mem_cons]
      grind
    exact ⟨hloaded, fun n hn => hmem n ((hway n).mp hn), f, hresults,
      fun n hn => (hf n hn).imp_left (hway n).mpr⟩
  | @load waiting before after c loaded results reports =>
    have hway (n : String) :
        UnderWay ⟨waiting, before ++ after, (c, a.pool.load c) :: loaded, results, reports⟩ n ↔
          UnderWay ⟨waiting, before ++ c :: after, loaded, results, reports⟩ n := by
      simp only [UnderWay, List.mem_append, List.mem_cons]
      grind
    exact ⟨List.forall_mem_cons.mpr ⟨rfl, hloaded⟩, fun n hn => hmem n ((hway n).mp hn), f,
      hresults, fun n hn => (hf n hn).imp_left (hway n).mpr⟩
  | @settle waiting loading c x before after results reports =>
    -- only the settled component leaves, and only its result changes
    have hx : x = a.pool.load c := hloaded (c, x) (by simp)
    have hc : c ∈ cs := hmem c (.inr (.inr ⟨(c, x), by simp, rfl⟩))
    have hway (n : String) :
        UnderWay ⟨waiting, loading, before ++ (c, x) :: after, results, reports⟩ n ↔
          UnderWay ⟨waiting, loading, before ++ after, results, reports⟩ n ∨ n = c := by
      simp only [UnderWay, List.mem_append, List.mem_cons]
      grind
    refine ⟨fun e he => hloaded e ?_, fun n hn => hmem n ((hway n).mpr (.inl hn)),
      fun n => if n = c then (a.settle c x .empty).dependencies else f n, ?_, fun n hn => ?_⟩
    · simp only [List.mem_append, List.mem_cons] at he ⊢
      grind
    · simp only at hresults ⊢
      rw [hresults]
      exact Analyzer.setResult_update f (List.mem_eraseDups.mpr hc) (Table.nodup_eraseDups cs) _
    · by_cases hnc : n = c
      · right
        simp only [hnc, if_true, hx, a.settle_load]
      · simp only [if_neg hnc]
        exact (hf n hn).imp_left fun h => ((hway n).mp h).resolve_right hnc

/-- **Run lemma.** -/
theorem invariant_of_reaches (h : Reaches a k (start cs) b) : Invariant a cs b := by
  induction h with
  | refl => exact Invariant.start a cs
  | tail _ hs ih => exact ih.step hs

/-! ## §3 Where it ends -/

/-- **Every way to end leaves the same**: the results of one component after
the other, and the reports of each analysis for itself, in some order. -/
theorem eq_of_ends {results : List (String × DependencySet)} {reports : List Diagnostic}
    (h : Ends a k cs results reports) :
    results = (a.analyzeEach cs).1 ∧ a.Records cs reports := by
  obtain ⟨-, -, f, hresults, hf⟩ := invariant_of_reaches h
  constructor
  · have hall : ∀ c ∈ cs.eraseDups, (c, f c) = (c, (a.analyze c .empty).dependencies) := by
      intro c hc
      rcases hf c (List.mem_eraseDups.mp hc) with hway | heq
      · simp [UnderWay, done] at hway
      · rw [heq]
    rw [a.analyzeEach_eq, ← List.map_congr_left hall]
    exact hresults
  · obtain ⟨d, hd⟩ := exists_merged_of_reaches h
    exact Analyzer.Ends.records (o := ⟨d, reports⟩) hd

/-- One component after the other is a run under every limit. -/
theorem reaches_foldl (a : Analyzer) (k : Option Int) (cs : List String)
    (results : List (String × DependencySet)) (reports : List Diagnostic) :
    Reaches a k ⟨cs, [], [], results, reports⟩
      (done
        (cs.foldl (fun r c => Analyzer.setResult r c (a.analyze c .empty).dependencies) results)
        (reports ++ cs.flatMap a.reports)) := by
  induction cs generalizing results reports with
  | nil =>
    rw [List.flatMap_nil, List.append_nil]
    exact Relation.ReflTransGen.refl
  | cons c rest ih =>
    have hfree : Batch.HasSlot k (([] : List String).length +
        ([] : List (String × Except Failure Loaded)).length) := by
      intro n _ hn
      simp only [List.length_nil]
      omega
    have hstart := @Step.start a k [] rest c [] [] results reports hfree
    have hload := @Step.load a k rest [] [] c [] results reports
    have hsettle := @Step.settle a k rest [] c (a.pool.load c) [] [] results reports
    rw [a.settle_load] at hsettle
    rw [List.foldl_cons, List.flatMap_cons, ← List.append_assoc]
    exact .head hstart (.head hload (.head hsettle (ih _ _)))

/-- So a separate batch can end, under every limit, as if its components were
analyzed one after the other. -/
theorem ends_analyzeEach (a : Analyzer) (k : Option Int) (cs : List String) :
    Ends a k cs (a.analyzeEach cs).1 (a.analyzeEach cs).2 := by
  have hends : Ends a k cs _ _ := reaches_foldl a k cs (start cs).results []
  have hreports : (a.analyzeEach cs).2 = [] ++ cs.flatMap a.reports := by
    rw [a.analyzeEach_eq, List.nil_append]
  rw [hreports, ← (eq_of_ends hends).1]
  exact hends

end SeparateBatch

end ManifestDeps
