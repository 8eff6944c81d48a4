/-
ManifestDeps.Session — analyses that tell a sink as they go.

Every report is told to the sink the moment it is made: what loading finds
wrong, each dependency before it is added, the reports of the rules as ones
about the component, and the failure that ends an analysis. A sink that
fails to be told ends the analysis like any other failure, with what was
added until then; one that fails to be told of that ends the session. In a
session one analysis follows on another, over any pools and rules and into
the dependencies of any module, and the sink may be cleared between them.
-/
import ManifestDeps.Analysis
import ManifestDeps.Diagnostic.Dispatch

namespace ManifestDeps

/-- Dependencies and a sink, in the course of an analysis. -/
structure Told (σ : Type) where
  dependencies : DependencySet
  sink : σ

section Telling

variable {σ : Type} [Sink σ]

/-- Find and read the manifest of a component, and tell why there is
none. -/
def Pool.loadTelling (pool : Pool) (component : String) :
    EStateM Failure σ (Option Manifest) :=
  if ModuleName.isBaseComponent component then return none
  else
    let descriptor := ModuleName.descriptorOf component
    match pool.find descriptor with
    | .error (.resourceNotFound _) => do
      Sink.verbose .manifestNotFound (notFoundReport component descriptor).context
      return none
    | .error f => throw f
    | .ok resource =>
      match resource.content with
      | .error f => throw f
      | .ok bytes =>
        match Manifest.parse descriptor (.bytes bytes) with
        | .ok m => return some m
        | .error (.invalid e) => do
          Sink.error .manifestParseError (parseErrorReport component descriptor e.fault).context
          return none
        | .error (.limit e) => throw (.limit e)

namespace Told

/-- Do something with the sink. -/
def withSink {α : Type} (x : EStateM Failure σ α) : EStateM Failure (Told σ) α := fun t =>
  match x t.sink with
  | .ok a s => .ok a { t with sink := s }
  | .error f s => .error f { t with sink := s }

/-- Tell of a derived dependency, then add it. -/
def addDependency (component : Option String) (rule : String) (x : DerivedDependency) :
    EStateM Failure (Told σ) Unit := do
  withSink (Sink.verbose .dependencyAdded (addedReport component rule x).context)
  modify fun t => { t with dependencies := t.dependencies.add x.module x.conditional }

/-- Tell a report of a rule, as one about the component if there is one. -/
def passOn (component : Option String) (w : Diagnostic) : EStateM Failure (Told σ) Unit :=
  withSink (Sink.emit (component.elim w fun c => w.forComponent c))

/-- Take the outcome of one rule: its dependencies one by one, then its own
reports. -/
def addDerivation (component : Option String) (d : Derivation) :
    EStateM Failure (Told σ) Unit := do
  d.dependencies.forM (addDependency component d.rule)
  d.diagnostics.forM (passOn component)

end Told

/-- Run rules on a manifest, then tell of what they derive and add it. -/
def Manifest.deriveTelling (m : Manifest) (rules : List Rule) (component : Option String) :
    EStateM Failure (Told σ) Unit := do
  let rs ← MonadExcept.ofExcept (deriveAll rules m)
  rs.forM (Told.addDerivation component)

/-- Analyze a component, adding to dependencies. Whatever fails on the way is
told as the failure of the analysis; what was added before stays. -/
def Analyzer.analyzeTelling (a : Analyzer) (component : String) :
    EStateM Failure (Told σ) Unit :=
  tryCatch
    (do
      match ← Told.withSink (a.pool.loadTelling component) with
      | none => return
      | some m => m.deriveTelling a.rules (some component))
    fun f => Told.withSink (Sink.error .analysisFailed (failedReport component f).context)

end Telling

/-- What happens in a session. -/
inductive Event where
  /-- A component is analyzed into the dependencies of a module. -/
  | analyze (a : Analyzer) (component module : String)
  /-- The sink is cleared. -/
  | clear

/-- The dependencies of modules, and the sink of all analyses. -/
structure Session (σ : Type) where
  dependencies : String → DependencySet
  sink : σ

namespace Session

/-- Replace the dependencies of a module. -/
def setDependencies (all : String → DependencySet) (module : String) (d : DependencySet) :
    String → DependencySet :=
  fun m => if m = module then d else all m

variable {σ : Type} [Sink σ]

/-- One event of a session. -/
def step (e : Event) : EStateM Failure (Session σ) Unit := fun s =>
  match e with
  | .analyze a component module =>
    match a.analyzeTelling component ⟨s.dependencies module, s.sink⟩ with
    | .ok _ t => .ok () ⟨setDependencies s.dependencies module t.dependencies, t.sink⟩
    | .error f t => .error f ⟨setDependencies s.dependencies module t.dependencies, t.sink⟩
  | .clear => .ok () { s with sink := Sink.clear s.sink }

/-- The events of a session, one after the other. -/
def run (events : List Event) : EStateM Failure (Session σ) Unit :=
  events.forM step

/-- What a session leaves behind, whether it comes to its end or not. -/
def leaves (events : List Event) (s : Session σ) : Session σ :=
  match run events s with
  | .ok _ t => t
  | .error _ t => t

end Session

end ManifestDeps
