/-
ManifestDeps.DependencySet — the modules another module depends on.

A dependency is required, or conditional when it may never be loaded. A
set lists each module once, in the order of first additions. Adding a
module as required makes it required for good; adding it as conditional
changes nothing for a module that is there.
-/
import ManifestDeps.Text.Quoted

namespace ManifestDeps

/-- How strongly a module depends on another one. -/
inductive Strength where
  | required
  | conditional
  deriving Repr, DecidableEq

/-- The word for a strength. -/
def Strength.name : Strength → String
  | required => "required"
  | conditional => "conditional"

/-- The strength of an addition. -/
def Strength.ofConditional (conditional : Bool) : Strength :=
  if conditional then .conditional else .required

/-- Both of two strengths: required if one of them is. -/
def Strength.join : Strength → Strength → Strength
  | conditional, conditional => conditional
  | _, _ => required

/-- Add a module to a list of dependencies. -/
def addEntry (entries : List (String × Strength)) (module : String) (s : Strength) :
    List (String × Strength) :=
  match entries with
  | [] => [(module, s)]
  | (m, t) :: rest =>
    if m = module then (m, t.join s) :: rest else (m, t) :: addEntry rest module s

theorem mem_keys_addEntry {entries : List (String × Strength)} {module m : String}
    {s : Strength} :
    m ∈ (addEntry entries module s).map Prod.fst ↔ m ∈ entries.map Prod.fst ∨ m = module := by
  induction entries with
  | nil => simp [addEntry]
  | cons e rest ih =>
    by_cases h : e.1 = module
    · simp only [addEntry, h, if_true, List.map_cons, List.mem_cons]
      grind
    · simp only [addEntry, h, if_false, List.map_cons, List.mem_cons, ih]
      grind

theorem nodup_keys_addEntry {entries : List (String × Strength)} {module : String}
    {s : Strength} (h : (entries.map Prod.fst).Nodup) :
    ((addEntry entries module s).map Prod.fst).Nodup := by
  induction entries with
  | nil => simp [addEntry]
  | cons e rest ih =>
    by_cases he : e.1 = module
    · simpa [addEntry, he] using h
    · simp only [List.map_cons, List.nodup_cons] at h
      simp only [addEntry, he, if_false, List.map_cons, List.nodup_cons]
      refine ⟨fun hmem => ?_, ih h.2⟩
      rcases mem_keys_addEntry.1 hmem with hm | hm
      · exact h.1 hm
      · exact he hm

/-- The dependencies of a module, each once, in order of first addition. -/
structure DependencySet where
  /-- The modules with their strengths. -/
  entries : List (String × Strength) := []
  /-- No module is listed twice. -/
  keys_nodup : (entries.map Prod.fst).Nodup := by simp

namespace DependencySet

instance : Inhabited DependencySet := ⟨{}⟩

instance : DecidableEq DependencySet := fun a b =>
  decidable_of_iff (a.entries = b.entries) (by cases a; cases b; simp)

/-- No dependencies. -/
def empty : DependencySet := {}

/-- Add a module. -/
def add (d : DependencySet) (module : String) (conditional : Bool) : DependencySet where
  entries := addEntry d.entries module (.ofConditional conditional)
  keys_nodup := nodup_keys_addEntry d.keys_nodup

/-- Add several modules, one after the other. -/
def addAll (d : DependencySet) (additions : List (String × Bool)) : DependencySet :=
  additions.foldl (fun d a => d.add a.1 a.2) d

/-- The modules, in order of first addition. -/
def modules (d : DependencySet) : List String :=
  d.entries.map Prod.fst

/-- The strength of a module, if it is there. -/
def strength? (d : DependencySet) (module : String) : Option Strength :=
  d.entries.lookup module

/-- The module is a required dependency. -/
def isRequired (d : DependencySet) (module : String) : Bool :=
  d.strength? module == some .required

/-- The module is a conditional dependency. -/
def isConditional (d : DependencySet) (module : String) : Bool :=
  d.strength? module == some .conditional

/-- The module is a dependency. -/
def contains (d : DependencySet) (module : String) : Bool :=
  d.modules.contains module

/-- The number of modules. -/
def size (d : DependencySet) : Nat :=
  d.entries.length

/-- The modules with their strengths, in order of their paths by code
point. -/
def sorted (d : DependencySet) : List (String × Strength) :=
  d.entries.mergeSort fun a b => decide (a.1 ≤ b.1)

end DependencySet

/-- A module with its dependencies. -/
structure ModuleInfo where
  /-- The module's name, if it has one. -/
  name : Option String := none
  /-- What the module depends on. -/
  dependencies : DependencySet := {}

/-- A short description for people. -/
def ModuleInfo.describe (m : ModuleInfo) : String :=
  let name := match m.name with
    | some s => Text.quoted s
    | none => "None"
  "ModuleInfo(name=" ++ name ++ ", dependencies=" ++ toString m.dependencies.size ++ ")"

end ManifestDeps
