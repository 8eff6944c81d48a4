/-
ManifestDeps.Batch — analyzing many components side by side.

The analyses of a batch share one set of dependencies. Each waits for a
free slot where their number is limited, looks for its manifest, which may
take any time, and is settled in one go afterwards: only then it adds and
reports, and gives its slot back. The order in which analyses start, find
and are settled is left open.

In a separate batch each component has dependencies of its own, and only
the reports go to one place.
-/
import ManifestDeps.Analysis

namespace ManifestDeps

/-- The end of an analysis, once its manifest was found or not. -/
def Analyzer.settle (a : Analyzer) (component : String) (loaded : Except Failure Loaded)
    (d : DependencySet) : Outcome :=
  match loaded with
  | .error f => ⟨d, [failedReport component f]⟩
  | .ok .exempt => ⟨d, []⟩
  | .ok (.skipped report) => ⟨d, [report]⟩
  | .ok (.found m) =>
    match m.derive a.rules (some component) d with
    | .error f => ⟨d, [failedReport component f]⟩
    | .ok outcome => outcome

/-- Go on from an outcome. -/
def Outcome.andThen (o : Outcome) (next : DependencySet → Outcome) : Outcome where
  dependencies := (next o.dependencies).dependencies
  reports := o.reports ++ (next o.dependencies).reports

/-- A batch under way. -/
structure Batch where
  /-- Components whose analysis has not started. -/
  waiting : List String
  /-- Components whose manifest is being looked for. -/
  loading : List String := []
  /-- Components with what was found for them. -/
  loaded : List (String × Except Failure Loaded) := []
  /-- What the analyses that are settled left behind. -/
  outcome : Outcome

namespace Batch

/-- A batch of components that is about to start. -/
def start (components : List String) (d : DependencySet) : Batch where
  waiting := components
  outcome := ⟨d, []⟩

/-- A batch that is done. -/
def done (o : Outcome) : Batch where
  waiting := []
  outcome := o

/-- The number of slots in use. -/
def inUse (b : Batch) : Nat :=
  b.loading.length + b.loaded.length

/-- There is a free slot. A limit below one is none. -/
def HasSlot (maxConcurrency : Option Int) (inUse : Nat) : Prop :=
  ∀ n, maxConcurrency = some n → 1 ≤ n → (inUse : Int) < n

/-- What can happen next in a batch. -/
inductive Step (a : Analyzer) (maxConcurrency : Option Int) : Batch → Batch → Prop where
  /-- An analysis takes a slot and starts to look for its manifest. -/
  | start {before after : List String} {c : String} {loading : List String}
      {loaded : List (String × Except Failure Loaded)} {o : Outcome} :
      HasSlot maxConcurrency (loading.length + loaded.length) →
      Step a maxConcurrency ⟨before ++ c :: after, loading, loaded, o⟩
        ⟨before ++ after, c :: loading, loaded, o⟩
  /-- The search for a manifest ends. -/
  | load {waiting before after : List String} {c : String}
      {loaded : List (String × Except Failure Loaded)} {o : Outcome} :
      Step a maxConcurrency ⟨waiting, before ++ c :: after, loaded, o⟩
        ⟨waiting, before ++ after, (c, a.pool.load c) :: loaded, o⟩
  /-- An analysis is settled and gives its slot back. -/
  | settle {waiting loading : List String} {c : String} {x : Except Failure Loaded}
      {before after : List (String × Except Failure Loaded)} {o : Outcome} :
      Step a maxConcurrency ⟨waiting, loading, before ++ (c, x) :: after, o⟩
        ⟨waiting, loading, before ++ after, o.andThen (a.settle c x)⟩

end Batch

/-- A batch under way whose components have dependencies of their own. -/
structure SeparateBatch where
  /-- Components whose analysis has not started. -/
  waiting : List String
  /-- Components whose manifest is being looked for. -/
  loading : List String := []
  /-- Components with what was found for them. -/
  loaded : List (String × Except Failure Loaded) := []
  /-- The dependencies of each component, empty until it is settled. -/
  results : List (String × DependencySet)
  /-- What the analyses that are settled reported. -/
  reports : List Diagnostic := []

namespace SeparateBatch

/-- A batch of components that is about to start. -/
def start (components : List String) : SeparateBatch where
  waiting := components
  results := components.foldl (fun results c => Analyzer.setResult results c .empty) []

/-- A batch that is done. -/
def done (results : List (String × DependencySet)) (reports : List Diagnostic) :
    SeparateBatch where
  waiting := []
  results := results
  reports := reports

/-- What can happen next in a separate batch. -/
inductive Step (a : Analyzer) (maxConcurrency : Option Int) :
    SeparateBatch → SeparateBatch → Prop where
  /-- An analysis takes a slot and starts to look for its manifest. -/
  | start {before after : List String} {c : String} {loading : List String}
      {loaded : List (String × Except Failure Loaded)}
      {results : List (String × DependencySet)} {reports : List Diagnostic} :
      Batch.HasSlot maxConcurrency (loading.length + loaded.length) →
      Step a maxConcurrency ⟨before ++ c :: after, loading, loaded, results, reports⟩
        ⟨before ++ after, c :: loading, loaded, results, reports⟩
  /-- The search for a manifest ends. -/
  | load {waiting before after : List String} {c : String}
      {loaded : List (String × Except Failure Loaded)}
      {results : List (String × DependencySet)} {reports : List Diagnostic} :
      Step a maxConcurrency ⟨waiting, before ++ c :: after, loaded, results, reports⟩
        ⟨waiting, before ++ after, (c, a.pool.load c) :: loaded, results, reports⟩
  /-- An analysis is settled and gives its slot back. -/
  | settle {waiting loading : List String} {c : String} {x : Except Failure Loaded}
      {before after : List (String × Except Failure Loaded)}
      {results : List (String × DependencySet)} {reports : List Diagnostic} :
      Step a maxConcurrency ⟨waiting, loading, before ++ (c, x) :: after, results, reports⟩
        ⟨waiting, loading, before ++ after,
          Analyzer.setResult results c (a.settle c x .empty).dependencies,
          reports ++ (a.settle c x .empty).reports⟩

end SeparateBatch

end ManifestDeps
