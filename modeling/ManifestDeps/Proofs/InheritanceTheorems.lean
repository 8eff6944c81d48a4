/-
ManifestDeps.Proofs.InheritanceTheorems — routing targets without
inheritance.

A target inherits from the settings of its routing section what it leaves
out of its view, and the rule merges the two as it goes. The same can be
written out once and for all: `Routing.explicit` gives each target that
shows a view the dotted name and the type of this view, with an empty path
in front of nothing, and takes the view fields out of the settings. A
section with all this written out derives what it derived before
(`routingRule_explicit`).

It comes down to one target (`targetFindings_explicit`): the merged view of
what is written out has the type and the dotted name of the merged view
that it was written from. A dotted name is never empty, so that the name of
a view is not taken for a missing one the second time.
-/
import ManifestDeps.Proofs.AccountingTheorems

namespace ManifestDeps

open TargetView (nonEmpty?)

/-! ## §1 Writing out what is inherited -/

/-- The settings without the view fields. -/
def RoutingDefaults.withoutView (c : RoutingDefaults) : RoutingDefaults :=
  { c with viewPath := none, viewName := none, viewType := none }

/-- A target with what it inherits written out. One without a view name of
its own stays as it is. -/
def RoutingTarget.explicit (defaults : Option RoutingDefaults) (t : RoutingTarget) :
    RoutingTarget :=
  if (nonEmpty? t.viewName).isSome then
    let view := TargetView.merge defaults t
    { viewPath := some "", viewName := view.qualifiedName?, viewType := view.viewType }
  else t

/-- A routing section in which nothing is inherited any more. -/
def Routing.explicit (r : Routing) : Routing where
  config := r.config.map RoutingDefaults.withoutView
  routes := r.routes
  targets := r.targets.map fun targets =>
    targets.map (Prod.map id (Option.map (RoutingTarget.explicit r.config)))

/-- A routing section with other settings. -/
def Routing.mapConfig (f : RoutingDefaults → RoutingDefaults) (r : Routing) : Routing :=
  { r with config := r.config.map f }

/-- A routing section without the targets that show no view of their own. -/
def Routing.shownOnly (r : Routing) : Routing :=
  { r with targets := r.targets.map (List.filter showsView) }

/-- A manifest with another routing section, if there is one. -/
def Manifest.mapRouting (f : Routing → Routing) (m : Manifest) : Manifest :=
  { m with ui := { m.ui with routing := m.ui.routing.map f } }

/-! ## §2 One target -/

/-- A dotted name is not empty. -/
theorem TargetView.nonEmpty?_qualifiedName? (v : TargetView) :
    nonEmpty? v.qualifiedName? = v.qualifiedName? := by
  rw [qualifiedName?]
  cases hname : nonEmpty? v.viewName with
  | none => rfl
  | some name =>
    have hne : name ≠ "" := (nonEmpty?_eq_some_iff.mp hname).2
    refine nonEmpty?_eq_some_iff.mpr ⟨rfl, ?_⟩
    cases nonEmpty? v.viewPath with
    | none => exact hne
    | some path => simp [hne]

/-- The view of a target with a name of its own and an empty path has this
name alone. -/
theorem TargetView.qualifiedName?_merge_of_empty_path (defaults : Option RoutingDefaults)
    {t : RoutingTarget} {name : String} (hname : t.viewName = some name) (hne : name ≠ "")
    (hpath : t.viewPath = some "") : (merge defaults t).qualifiedName? = some name := by
  have hpath' : (merge defaults t).viewPath = some "" := by simp [merge, hpath]
  have hname' : (merge defaults t).viewName = some name := by simp [merge, hname]
  rw [qualifiedName?, hpath', hname', nonEmpty?_eq_some_iff.mpr ⟨rfl, hne⟩]
  rfl

section Target

variable {defaults defaults' : Option RoutingDefaults} {t t' : RoutingTarget}

theorem targetFindings_of_not_showsView (defaults : Option RoutingDefaults)
    {entry : String × Option RoutingTarget} (h : showsView entry = false) :
    targetFindings defaults entry = [] := by
  have hnone : (entry.2.filter fun t => (nonEmpty? t.viewName).isSome) = none := by
    rw [Option.filter_eq_none_iff]
    intro t ht
    simpa [showsView, ht] using h
  rw [targetFindings, hnone]

/-- A target that shows a view counts by the dotted name and the type of its
merged view. -/
theorem targetFindings_congr {key : String} (hshows : showsView (key, some t) = true)
    (hshows' : showsView (key, some t') = true)
    (hname : (TargetView.merge defaults' t').qualifiedName? =
      (TargetView.merge defaults t).qualifiedName?)
    (htype : (TargetView.merge defaults' t').viewType = (TargetView.merge defaults t).viewType) :
    targetFindings defaults' (key, some t') = targetFindings defaults (key, some t) := by
  have hown : (nonEmpty? t.viewName).isSome = true := hshows
  have hown' : (nonEmpty? t'.viewName).isSome = true := hshows'
  simp [targetFindings, Option.filter, hown, hown', hname, htype]

/-- A target that shows a view whose type is empty is reported. -/
theorem targetFindings_of_empty_type (defaults : Option RoutingDefaults) {key : String}
    (hshows : showsView (key, some t) = true) (htype : t.viewType = some "") :
    targetFindings defaults (key, some t) =
      [.warning (warning routingRuleName .routingTargetViewTypeMissing
        [("target", .str key)])] := by
  have hown : (nonEmpty? t.viewName).isSome = true := hshows
  have htype' : nonEmpty? (TargetView.merge defaults t).viewType = none := by
    simp [TargetView.merge, htype, nonEmpty?]
  simp [targetFindings, Option.filter, hown, htype']

/-- What is written out shows the same view, without any settings for
views. -/
theorem TargetView.merge_explicit (defaults : Option RoutingDefaults)
    (hown : (nonEmpty? t.viewName).isSome = true) :
    merge (defaults.map RoutingDefaults.withoutView) (t.explicit defaults) =
      ⟨some "", (merge defaults t).qualifiedName?, (merge defaults t).viewType⟩ := by
  rw [RoutingTarget.explicit, if_pos hown]
  cases defaults <;> simp [merge, RoutingDefaults.withoutView]

/-- **Written out, a target counts as before.** -/
theorem targetFindings_explicit (defaults : Option RoutingDefaults)
    (entry : String × Option RoutingTarget) :
    targetFindings (defaults.map RoutingDefaults.withoutView)
        (Prod.map id (Option.map (RoutingTarget.explicit defaults)) entry) =
      targetFindings defaults entry := by
  obtain ⟨key, t?⟩ := entry
  cases t? with
  | none => rfl
  | some t =>
    by_cases hown : (nonEmpty? t.viewName).isSome = true
    · have hmerge := TargetView.merge_explicit defaults hown
      have hown' : (nonEmpty? (t.explicit defaults).viewName).isSome = true := by
        obtain ⟨name, hname⟩ := TargetView.exists_qualifiedName? defaults hown
        rw [RoutingTarget.explicit, if_pos hown, TargetView.nonEmpty?_qualifiedName?, hname]
        rfl
      refine targetFindings_congr hown hown' ?_ ?_
      · rw [hmerge, TargetView.qualifiedName?, TargetView.nonEmpty?_qualifiedName?]
        exact congrFun Option.map_id _
      · rw [hmerge]
    · have hshows : showsView (key, some t) = false := Bool.eq_false_iff.mpr hown
      have hsame : t.explicit defaults = t := if_neg hown
      rw [Prod.map_apply, id, Option.map_some, hsame, targetFindings_of_not_showsView _ hshows,
        targetFindings_of_not_showsView _ hshows]

/-- A target inherits a path where it has none of its own, and a type where it
has none. It inherits nothing else: a target that shows a view has a view
name of its own. -/
theorem targetFindings_congr_defaults (key : String)
    (hpath : t.viewPath = none → (defaults'.getD {}).viewPath = (defaults.getD {}).viewPath)
    (htype : t.viewType = none → (defaults'.getD {}).viewType = (defaults.getD {}).viewType) :
    targetFindings defaults' (key, some t) = targetFindings defaults (key, some t) := by
  cases hshows : showsView (key, some t) with
  | false => rw [targetFindings_of_not_showsView _ hshows, targetFindings_of_not_showsView _ hshows]
  | true =>
    obtain ⟨name, hname⟩ :=
      Option.isSome_iff_exists.mp (show (nonEmpty? t.viewName).isSome from hshows)
    have hviewName : t.viewName = some name := (TargetView.nonEmpty?_eq_some_iff.mp hname).1
    have hmerge : TargetView.merge defaults' t = TargetView.merge defaults t := by
      rw [TargetView.merge, TargetView.merge, TargetView.mk.injEq]
      refine ⟨?_, by simp [hviewName], ?_⟩
      · cases hp : t.viewPath with
        | none => simp [hpath hp]
        | some path => rfl
      · cases ht : t.viewType with
        | none => simp [htype ht]
        | some type => rfl
    exact targetFindings_congr hshows hshows (by rw [hmerge]) (by rw [hmerge])

end Target

/-! ## §3 A routing section -/

namespace Routing

/-- What a routing section gives: its classes, then its targets. -/
def findings (r : Routing) : List Finding :=
  r.classFindings ++ (r.targets.getD []).flatMap (targetFindings r.config)

theorem classFindings_explicit (r : Routing) : r.explicit.classFindings = r.classFindings := by
  obtain ⟨config, routes, targets⟩ := r
  cases config <;> simp [classFindings, explicit, RoutingDefaults.withoutView]

theorem findings_explicit (r : Routing) : r.explicit.findings = r.findings := by
  have htargets : (r.explicit.targets.getD []).flatMap (targetFindings r.explicit.config) =
      (r.targets.getD []).flatMap (targetFindings r.config) := by
    cases htable : r.targets with
    | none => simp [explicit, htable]
    | some targets =>
      simp only [explicit, htable, Option.map_some, Option.getD_some, List.flatMap_map,
        targetFindings_explicit]
  rw [findings, findings, classFindings_explicit, htargets]

/-- The view name of the settings is never used. -/
theorem findings_viewName (r : Routing) (name : Option String) :
    (r.mapConfig fun c => { c with viewName := name }).findings = r.findings := by
  have hclass : (r.mapConfig fun c => { c with viewName := name }).classFindings =
      r.classFindings := by
    obtain ⟨config, routes, targets⟩ := r
    cases config <;> rfl
  have htarget : targetFindings (r.config.map fun c => { c with viewName := name }) =
      targetFindings r.config := by
    funext entry
    obtain ⟨key, t?⟩ := entry
    cases t? with
    | none => rfl
    | some t =>
      refine targetFindings_congr_defaults key (fun _ => ?_) fun _ => ?_
      · cases r.config <;> rfl
      · cases r.config <;> rfl
  rw [findings, findings, hclass, mapConfig]
  dsimp only
  rw [htarget]

/-- Targets that show no view of their own give nothing. -/
theorem findings_shownOnly (r : Routing) : r.shownOnly.findings = r.findings := by
  have hclass : r.shownOnly.classFindings = r.classFindings := by
    simp only [classFindings, shownOnly, Option.isSome_map]
  have hfilter (targets : Table (Option RoutingTarget)) :
      (targets.filter showsView).flatMap (targetFindings r.config) =
        targets.flatMap (targetFindings r.config) := by
    induction targets with
    | nil => rfl
    | cons entry rest ih =>
      cases hshows : showsView entry with
      | false =>
        rw [List.filter_cons_of_neg (by simp [hshows]), List.flatMap_cons, ih,
          targetFindings_of_not_showsView _ hshows, List.nil_append]
      | true => rw [List.filter_cons_of_pos hshows, List.flatMap_cons, List.flatMap_cons, ih]
  rw [findings, findings, hclass]
  cases htable : r.targets with
  | none => simp [shownOnly, htable]
  | some targets => simp [shownOnly, htable, hfilter]

end Routing

/-- The rule for routing looks at what the section gives. -/
theorem routingRule_mapRouting {f : Routing → Routing} (h : ∀ r, (f r).findings = r.findings)
    (m : Manifest) : routingRule (m.mapRouting f) = routingRule m := by
  rw [routingRule, routingRule, Manifest.mapRouting]
  cases m.ui.routing with
  | none => rfl
  | some r => exact congrArg (Derivation.ofFindings routingRuleName) (h r)

/-- **Inheritance can be written out.** Of every manifest, the routing section
derives the same, dependencies and warnings and their order, when each target
that shows a view gets the dotted name and the type of its merged view and an
empty path, and the settings keep none of their view fields. The view name
of the settings never matters, and targets without a view name of their own
can be left out. What a target says itself is not inherited, even if it is
empty: with an empty path, the path of the settings is not used, and the
dotted name is the view name; with an empty type, the type of the settings
is not used, and the target is reported to have none. -/
theorem routingRule_explicit (m : Manifest) :
    routingRule (m.mapRouting Routing.explicit) = routingRule m ∧
      (∀ name, routingRule (m.mapRouting fun r => r.mapConfig fun c =>
        { c with viewName := name }) = routingRule m) ∧
      routingRule (m.mapRouting Routing.shownOnly) = routingRule m ∧
      ∀ (defaults : Option RoutingDefaults) (key : String) (t : RoutingTarget),
        (t.viewPath = some "" →
          (∀ path, targetFindings (defaults.map fun c => { c with viewPath := path })
            (key, some t) = targetFindings defaults (key, some t)) ∧
          ∀ name, t.viewName = some name → name ≠ "" →
            (TargetView.merge defaults t).qualifiedName? = some name) ∧
        (t.viewType = some "" → showsView (key, some t) = true →
          targetFindings defaults (key, some t) =
            [.warning (warning routingRuleName .routingTargetViewTypeMissing
              [("target", .str key)])]) ∧
        (showsView (key, some t) = false → targetFindings defaults (key, some t) = []) := by
  refine ⟨routingRule_mapRouting Routing.findings_explicit m,
    fun name => routingRule_mapRouting (fun r => r.findings_viewName name) m,
    routingRule_mapRouting Routing.findings_shownOnly m, fun defaults key t => ⟨?_, ?_, ?_⟩⟩
  · intro hpath
    refine ⟨fun path => targetFindings_congr_defaults key (fun hnone => ?_) fun _ => ?_, ?_⟩
    · rw [hpath] at hnone
      cases hnone
    · cases defaults <;> rfl
    · intro name hname hne
      exact TargetView.qualifiedName?_merge_of_empty_path defaults hname hne hpath
  · intro htype hshows
    exact targetFindings_of_empty_type defaults hshows htype
  · intro hshows
    exact targetFindings_of_not_showsView defaults hshows

/-- One target inherits path and type, one has an empty path, one an empty
type, one is null and one has a path alone. -/
theorem routingRule_explicit_five :
    let plain : RoutingTarget := { viewName := some "A" }
    let top : RoutingTarget := { viewName := some "B", viewPath := some "" }
    let untyped : RoutingTarget := { viewName := some "C", viewType := some "" }
    let hidden : RoutingTarget := { viewPath := some "q" }
    let config : RoutingDefaults :=
      { viewPath := some "my.app", viewName := some "D", viewType := some "XML" }
    let m : Manifest :=
      { ui :=
          { routing := some
              { config := some config
                targets := some [("a", some plain), ("b", some top), ("c", some untyped),
                  ("d", none), ("e", some hidden)] } } }
    let written := routingRule (m.mapRouting Routing.explicit)
    written.dependencies.map DerivedDependency.module =
        [defaultTargetsModule, viewsModule, "my/app/A.view.xml", "B.view.xml"] ∧
      written.diagnostics = [warning routingRuleName .routingTargetViewTypeMissing
        [("target", .str "c")]] ∧
      (TargetView.merge (some config) top).qualifiedName? = some "B" ∧
      targetFindings (some config) ("c", some untyped) =
        [.warning (warning routingRuleName .routingTargetViewTypeMissing
          [("target", .str "c")])] ∧
      targetFindings (some config) ("e", some hidden) = [] := by
  intro plain top untyped hidden config m written
  obtain ⟨hwritten, -, -, htarget⟩ := routingRule_explicit m
  obtain ⟨htop, -, -⟩ := htarget (some config) "b" top
  obtain ⟨-, huntyped, -⟩ := htarget (some config) "c" untyped
  obtain ⟨-, -, hhidden⟩ := htarget (some config) "e" hidden
  have hdependencies : (routingRule m).dependencies.map DerivedDependency.module =
      [defaultTargetsModule, viewsModule, "my/app/A.view.xml", "B.view.xml"] := by
    decide +kernel
  have hdiagnostics : (routingRule m).diagnostics =
      [warning routingRuleName .routingTargetViewTypeMissing [("target", .str "c")]] := by
    decide +kernel
  rw [← hwritten] at hdependencies hdiagnostics
  exact ⟨hdependencies, hdiagnostics, (htop rfl).2 "B" rfl (by decide), huntyped rfl rfl,
    hhidden rfl⟩

end ManifestDeps
