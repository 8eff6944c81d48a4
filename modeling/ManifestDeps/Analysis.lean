/-
ManifestDeps.Analysis — from component names to dependencies and reports.

The descriptor beside a component is found, read and handed to the rules;
what they derive is added to the dependencies of a module. A failure is
reported and leaves the dependencies as they were, so that a list of
components is always analyzed to its end. The rules are all run before
anything is added.
-/
import ManifestDeps.DependencySet
import ManifestDeps.Derivation
import ManifestDeps.Resource.Pool

namespace ManifestDeps

/-! ## Finding the manifest -/

/-- What is found where a component's descriptor should be. -/
inductive Loaded where
  /-- The component is the base component, which has none. -/
  | exempt
  /-- No manifest, with the report about it. -/
  | skipped (d : Diagnostic)
  | found (m : Manifest)

/-- The report that there is no descriptor. -/
def notFoundReport (component descriptor : String) : Diagnostic where
  severity := .verbose
  code := .manifestNotFound
  context := [("component", .str component), ("manifest", .str descriptor)]

/-- The report that a descriptor is no manifest. -/
def parseErrorReport (component descriptor : String) (f : ManifestFault) : Diagnostic where
  severity := .error
  code := .manifestParseError
  context := [("component", .str component), ("manifest", .str descriptor),
    ("error", .fault f)]

/-- The report that an analysis failed. -/
def failedReport (component : String) (f : Failure) : Diagnostic where
  severity := .error
  code := .analysisFailed
  context := [("component", .str component), ("error", .failure f), ("exception", .failure f)]

/-- Find and read the manifest of a component. -/
def Pool.load (pool : Pool) (component : String) (depth : Nat := Json.maxDepth) :
    Except Failure Loaded :=
  if ModuleName.isBaseComponent component then .ok .exempt
  else
    let descriptor := ModuleName.descriptorOf component
    match pool.find descriptor with
    | .error (.resourceNotFound _) => .ok (.skipped (notFoundReport component descriptor))
    | .error f => .error f
    | .ok resource =>
      match resource.content with
      | .error f => .error f
      | .ok bytes =>
        match Manifest.parse descriptor (.bytes bytes) depth with
        | .ok m => .ok (.found m)
        | .error (.invalid e) => .ok (.skipped (parseErrorReport component descriptor e.fault))
        | .error (.limit e) => .error (.limit e)

/-! ## Adding what is derived -/

/-- The report of an added dependency. -/
def addedReport (component : Option String) (rule : String) (d : DerivedDependency) :
    Diagnostic where
  severity := .verbose
  code := .dependencyAdded
  context := [("component", component.elim (.value .null) .str), ("rule", .str rule),
    ("module", .str d.module), ("conditional", .value (.bool d.conditional))]

/-- The reports of one rule's outcome: one for each dependency, then its
own warnings. -/
def Derivation.reports (component : Option String) (d : Derivation) : List Diagnostic :=
  d.dependencies.map (addedReport component d.rule) ++
    d.diagnostics.map fun w => component.elim w fun c => w.forComponent c

/-- The additions of one rule's outcome. -/
def Derivation.additions (d : Derivation) : List (String × Bool) :=
  d.dependencies.map fun x => (x.module, x.conditional)

/-- Dependencies together with the reports made on the way. -/
structure Outcome where
  dependencies : DependencySet
  reports : List Diagnostic := []

/-- Add what all rules derived. -/
def addDerived (component : Option String) (d : DependencySet) (rs : List Derivation) :
    Outcome where
  dependencies := d.addAll (rs.flatMap Derivation.additions)
  reports := rs.flatMap (Derivation.reports component)

/-- Run rules on a manifest and add what they derive. -/
def Manifest.derive (m : Manifest) (rules : List Rule) (component : Option String)
    (d : DependencySet) : Except Failure Outcome :=
  (deriveAll rules m).map (addDerived component d)

/-! ## Analyzing components -/

/-- Where components are found and which rules are used. -/
structure Analyzer where
  pool : Pool
  rules : List Rule := defaultRules

namespace Analyzer

/-- Analyze a component, adding to dependencies. -/
def analyze (a : Analyzer) (component : String) (d : DependencySet) : Outcome :=
  match a.pool.load component with
  | .error f => ⟨d, [failedReport component f]⟩
  | .ok .exempt => ⟨d, []⟩
  | .ok (.skipped report) => ⟨d, [report]⟩
  | .ok (.found m) =>
    match m.derive a.rules (some component) d with
    | .error f => ⟨d, [failedReport component f]⟩
    | .ok outcome => outcome

/-- Analyze components one after the other, adding to the same
dependencies. -/
def analyzeAll (a : Analyzer) (components : List String) (d : DependencySet) : Outcome :=
  components.foldl
    (fun o c =>
      let next := a.analyze c o.dependencies
      ⟨next.dependencies, o.reports ++ next.reports⟩)
    ⟨d, []⟩

/-- Set the dependencies of a component, in its place if it is there. -/
def setResult (results : List (String × DependencySet)) (component : String)
    (d : DependencySet) : List (String × DependencySet) :=
  match results with
  | [] => [(component, d)]
  | (c, e) :: rest =>
    if c = component then (c, d) :: rest else (c, e) :: setResult rest component d

/-- Analyze components, each with dependencies of its own: one entry for
each name, in order of first occurrence, and all reports. -/
def analyzeEach (a : Analyzer) (components : List String) :
    List (String × DependencySet) × List Diagnostic :=
  components.foldl
    (fun (results, reports) c =>
      let o := a.analyze c .empty
      (setResult results c o.dependencies, reports ++ o.reports))
    ([], [])

end Analyzer

end ManifestDeps
