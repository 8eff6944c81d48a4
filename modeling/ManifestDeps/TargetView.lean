/-
ManifestDeps.TargetView — the view that a routing target shows.

A target inherits each view field it leaves out from the shared routing
settings, one field at a time. An empty text is a value of its own and
inherits nothing.
-/
import ManifestDeps.Manifest.Basic

namespace ManifestDeps

/-- The view fields of a target after inheritance. -/
structure TargetView where
  viewPath : Option String := none
  viewName : Option String := none
  viewType : Option String := none
  deriving Repr, DecidableEq

namespace TargetView

/-- A text that is there and not empty. -/
def nonEmpty? : Option String → Option String
  | some "" => none
  | t => t

theorem nonEmpty?_eq_some_iff {t : Option String} {s : String} :
    nonEmpty? t = some s ↔ t = some s ∧ s ≠ "" := by
  unfold nonEmpty?
  split
  · constructor
    · intro h
      cases h
    · rintro ⟨h, hs⟩
      cases h
      exact absurd rfl hs
  · rename_i hne
    constructor
    · intro h
      refine ⟨h, fun hs => ?_⟩
      subst hs
      exact hne h
    · exact fun h => h.1

/-- The dotted name of the view: its name behind the path, if there is
one; none without a name. -/
def qualifiedName? (v : TargetView) : Option String :=
  (nonEmpty? v.viewName).map fun name =>
    match nonEmpty? v.viewPath with
    | some path => path ++ "." ++ name
    | none => name

/-- The view fields of a target over shared settings. -/
def merge (defaults : Option RoutingDefaults) (target : RoutingTarget) : TargetView :=
  let d := defaults.getD {}
  { viewPath := target.viewPath <|> d.viewPath
    viewName := target.viewName <|> d.viewName
    viewType := target.viewType <|> d.viewType }

end TargetView

end ManifestDeps
