/-
ManifestDeps.TaskBatch — components side by side, a task for each.

For each component of a list, repeated ones included, a task is made, with a
module of its own that has the component's name and no dependencies yet. A
register says which task counts for a name. Where a component comes again,
its name keeps its place there and is bound to the new task; the task that
was made before is under way all the same, and adds to the module that it
was given.

A task waits for a free slot where their number is limited, looks for its
manifest, which may take any time, and is settled in one go. The order in
which tasks go on is left open. Afterwards the register leads to the module
of each name.
-/
import ManifestDeps.Batch

namespace ManifestDeps

/-- Bind a name, in its place if it is bound already. -/
def Table.put {α : Type} (t : Table α) (name : String) (a : α) : Table α :=
  match t with
  | [] => [(name, a)]
  | (n, b) :: rest => if n = name then (n, a) :: rest else (n, b) :: Table.put rest name a

/-- Analyze a component, adding to the dependencies of a module. -/
def Analyzer.analyzeInto (a : Analyzer) (component : String) (info : ModuleInfo) : ModuleInfo :=
  { info with dependencies := (a.analyze component info.dependencies).dependencies }

/-- How far a task is. -/
inductive Phase where
  | waiting
  | loading
  /-- The manifest was found or not, and nothing is added yet. -/
  | loaded (x : Except Failure Loaded)
  | settled

namespace Phase

/-- A task that is under way holds a slot. -/
def holdsSlot : Phase → Bool
  | waiting | settled => false
  | loading | loaded _ => true

/-- The task is done. -/
def isSettled : Phase → Bool
  | settled => true
  | waiting | loading | loaded _ => false

end Phase

/-- The analysis of a component, with the module that it adds to. -/
structure AnalysisTask where
  component : String
  phase : Phase := .waiting
  info : ModuleInfo

namespace AnalysisTask

/-- A task that is about to start. -/
def fresh (component : String) : AnalysisTask where
  component := component
  info := { name := some component, dependencies := .empty }

/-- How a task goes on, and what it reports then. -/
inductive Step (a : Analyzer) : AnalysisTask → AnalysisTask → List Diagnostic → Prop where
  | start {c : String} {info : ModuleInfo} :
      Step a ⟨c, .waiting, info⟩ ⟨c, .loading, info⟩ []
  | load {c : String} {info : ModuleInfo} :
      Step a ⟨c, .loading, info⟩ ⟨c, .loaded (a.pool.load c), info⟩ []
  | settle {c : String} {x : Except Failure Loaded} {info : ModuleInfo} :
      Step a ⟨c, .loaded x, info⟩
        ⟨c, .settled, { info with dependencies := (a.settle c x info.dependencies).dependencies }⟩
        (a.settle c x info.dependencies).reports

end AnalysisTask

/-- Tasks under way. -/
structure TaskBatch where
  tasks : List AnalysisTask := []
  /-- The number of the task that counts for a name. -/
  register : Table Nat := []
  /-- What the tasks reported so far. -/
  reports : List Diagnostic := []

namespace TaskBatch

/-- Make a task for a component and register it. -/
def add (b : TaskBatch) (component : String) : TaskBatch :=
  { b with
    tasks := b.tasks ++ [.fresh component]
    register := Table.put b.register component b.tasks.length }

/-- The tasks for a list of components, which are about to start. -/
def start (components : List String) : TaskBatch :=
  components.foldl add {}

/-- The number of slots in use. -/
def inUse (b : TaskBatch) : Nat :=
  b.tasks.countP fun t => t.phase.holdsSlot

/-- What can happen next: some task goes on, which takes a free slot if it
does not hold one. -/
inductive Step (a : Analyzer) (maxConcurrency : Option Int) : TaskBatch → TaskBatch → Prop where
  | advance {before after : List AnalysisTask} {t t' : AnalysisTask} {new : List Diagnostic}
      {register : Table Nat} {reports : List Diagnostic} :
      t.Step a t' new →
      (t.phase.holdsSlot = false →
        Batch.HasSlot maxConcurrency (inUse ⟨before ++ t :: after, register, reports⟩)) →
      Step a maxConcurrency ⟨before ++ t :: after, register, reports⟩
        ⟨before ++ t' :: after, register, reports ++ new⟩

/-- All tasks are done. -/
def IsDone (b : TaskBatch) : Prop :=
  ∀ t ∈ b.tasks, t.phase.isSettled = true

/-- The module of each name, as the register has it. -/
def results (b : TaskBatch) : List (String × ModuleInfo) :=
  b.register.filterMap fun e => b.tasks[e.2]?.map fun t => (e.1, t.info)

end TaskBatch

end ManifestDeps
