/-
ManifestDeps.Proofs.StrengthTheorems — when a manifest requires a module,
and when it may do without.

`Manifest.Lists` says which modules the libraries, components and component
usages of a manifest name, and whether lazily; `Manifest.Needs` says which
modules its root view, its models and its routing call for. Neither
mentions a rule. One lemma for each rule shows that what it derives is
listed or needed (`lists_of_library`, …, `needs_of_routing`), one case for
each constructor the converse, and `mem_additions_iff` is both: the rules
derive exactly what the manifest lists and needs.

Different entries may name one module, since dots and slashes fall
together and a usage may repeat a component. `default_strengths` settles
the strength over all of them: conditional if every entry that lists the
module is lazy, and nothing needs it.
-/
import ManifestDeps.Proofs.AnalysisTheorems

namespace ManifestDeps

open TargetView (nonEmpty?)

/-! ## §1 What a manifest lists and needs -/

namespace Manifest

/-- The declared libraries. -/
def libraries (M : Manifest) : Table (Option DependencyOptions) :=
  (M.ui.dependencies.bind Declarations.libs).getD []

/-- The declared components. -/
def components (M : Manifest) : Table (Option DependencyOptions) :=
  (M.ui.dependencies.bind Declarations.components).getD []

/-- The component usages. -/
def usages (M : Manifest) : Table (Option ComponentUsage) :=
  M.ui.componentUsages.getD []

/-- The models. -/
def models (M : Manifest) : Table (Option ModelConfig) :=
  M.ui.models.getD []

/-- An entry of the libraries, components or component usages maps to a
module, lazily or not. A usage is lazy unless it is declared not to be, and
without a name it maps to nothing. -/
inductive Lists (M : Manifest) : String → Bool → Prop where
  | library {name : String} {o : Option DependencyOptions} : (name, o) ∈ M.libraries →
      Lists M (ModuleName.ofDotted name (some librarySuffix)) (o.any DependencyOptions.lazy)
  | component {name : String} {o : Option DependencyOptions} : (name, o) ∈ M.components →
      Lists M (ModuleName.ofDotted name (some componentSuffix)) (o.any DependencyOptions.lazy)
  | usage {key name : String} {u : ComponentUsage} : (key, some u) ∈ M.usages →
      u.name = some name → name ≠ "" →
      Lists M (ModuleName.ofDotted name (some componentSuffix)) (u.lazy != some false)

/-- The root view, a model or the routing section calls for a module. -/
inductive Needs (M : Manifest) : String → Prop where
  | namedView {name : String} : M.ui.rootView = some (.named name) → name ≠ "" →
      Needs M (ModuleName.ofDotted name (some (ModuleName.viewSuffix defaultViewType)))
  | viewOptions {o : ViewOptions} {name : String} : M.ui.rootView = some (.options o) →
      o.viewName = some name → name ≠ "" →
      Needs M (ModuleName.ofDotted name
        (some (ModuleName.viewSuffix ((nonEmpty? o.type).getD defaultViewType))))
  | model {key type : String} {config : Option ModelConfig} : (key, config) ∈ M.models →
      M.modelClass key = .ok type → Needs M (ModuleName.ofDotted type none)
  | router {r : Routing} : M.ui.routing = some r → r.routes.isSome = true →
      Needs M (ModuleName.ofDotted
        ((r.config.bind fun c => nonEmpty? c.routerClass).getD defaultRouterClass) none)
  | targetsClass {r : Routing} : M.ui.routing = some r → r.routes.isSome = false →
      r.targets.isSome = true →
      Needs M (((r.config.bind fun c => nonEmpty? c.targetsClass).map ModuleName.ofClass).getD
        defaultTargetsModule)
  | views {r : Routing} : M.ui.routing = some r → r.routes.isSome = false →
      r.targets.isSome = true → Needs M viewsModule
  | target {r : Routing} {key own name type : String} {t : RoutingTarget} :
      M.ui.routing = some r → (key, some t) ∈ r.targets.getD [] →
      t.viewName = some own → own ≠ "" →
      (TargetView.merge r.config t).qualifiedName? = some name →
      (TargetView.merge r.config t).viewType = some type → type ≠ "" →
      Needs M (ModuleName.ofDotted name (some (ModuleName.viewSuffix type)))

end Manifest

/-! ## §2 One lemma for each rule -/

section Rules

variable {M : Manifest} {x : DerivedDependency}

theorem Finding.dependency_ofView {o : ViewOptions} (h : .dependency x = o.finding) :
    ∃ name, o.viewName = some name ∧ name ≠ "" ∧
      x = { module := ModuleName.ofDotted name
              (some (ModuleName.viewSuffix ((nonEmpty? o.type).getD defaultViewType))) } := by
  unfold ViewOptions.finding at h
  split at h
  · cases h
  · rename_i name hname
    obtain ⟨ho, hne⟩ := TargetView.nonEmpty?_eq_some_iff.mp hname
    cases h
    exact ⟨name, ho, hne, rfl⟩

/-- **Root view.** -/
theorem needs_of_rootView (h : .dependency x ∈ rootViewFindings M) :
    x.conditional = false ∧ M.Needs x.module := by
  unfold rootViewFindings at h
  split at h
  · cases h
  · rename_i s hs
    split at h
    · cases h
    · rename_i hne
      obtain ⟨name, hname, -, rfl⟩ := Finding.dependency_ofView (List.mem_singleton.mp h)
      cases hname
      exact ⟨rfl, .namedView hs hne⟩
  · rename_i o ho
    obtain ⟨name, hname, hne, rfl⟩ := Finding.dependency_ofView (List.mem_singleton.mp h)
    exact ⟨rfl, .viewOptions ho hname hne⟩

/-- **Libraries.** -/
theorem lists_of_library
    (h : .dependency x ∈ M.libraries.map (declarationFinding librarySuffix)) :
    M.Lists x.module x.conditional := by
  obtain ⟨⟨name, o⟩, hmem, hx⟩ := List.mem_map.mp h
  cases hx
  exact .library hmem

/-- **Components.** -/
theorem lists_of_component
    (h : .dependency x ∈ M.components.map (declarationFinding componentSuffix)) :
    M.Lists x.module x.conditional := by
  obtain ⟨⟨name, o⟩, hmem, hx⟩ := List.mem_map.mp h
  cases hx
  exact .component hmem

/-- **Component usages.** -/
theorem lists_of_usage (h : .dependency x ∈ M.usages.map usageFinding) :
    M.Lists x.module x.conditional := by
  obtain ⟨⟨key, o⟩, hmem, hx⟩ := List.mem_map.mp h
  unfold usageFinding at hx
  split at hx
  · cases hx
  · rename_i name lazy hbind
    obtain ⟨u, rfl, hu⟩ := Option.bind_eq_some_iff.mp hbind
    obtain ⟨s, hs, hpair⟩ := Option.map_eq_some_iff.mp hu
    obtain ⟨hname, hne⟩ := TargetView.nonEmpty?_eq_some_iff.mp hs
    cases hpair
    cases hx
    exact .usage hmem hname hne

/-- **Models.** -/
theorem needs_of_model (h : .dependency x ∈ M.models.map fun e => M.modelFinding e.1) :
    x.conditional = false ∧ M.Needs x.module := by
  obtain ⟨⟨key, config⟩, hmem, hx⟩ := List.mem_map.mp h
  unfold Manifest.modelFinding at hx
  split at hx
  · rename_i type htype
    cases hx
    exact ⟨rfl, .model hmem htype⟩
  · cases hx

/-- **Router, or targets and views.** -/
theorem needs_of_routingClasses {r : Routing} (hr : M.ui.routing = some r)
    (h : .dependency x ∈ r.classFindings) : x.conditional = false ∧ M.Needs x.module := by
  unfold Routing.classFindings at h
  split at h
  · rename_i hroutes
    cases List.mem_singleton.mp h
    exact ⟨rfl, .router hr hroutes⟩
  · rename_i hroutes
    have hroutes := Bool.eq_false_iff.mpr hroutes
    split at h
    · rename_i htargets
      rcases List.mem_cons.mp h with hx | hx
      · have hneed := Manifest.Needs.targetsClass hr hroutes htargets
        cases hclass : r.config.bind fun c => nonEmpty? c.targetsClass with
        | none => rw [hclass] at hx hneed; cases hx; exact ⟨rfl, hneed⟩
        | some name => rw [hclass] at hx hneed; cases hx; exact ⟨rfl, hneed⟩
      · cases List.mem_singleton.mp hx
        exact ⟨rfl, .views hr hroutes htargets⟩
    · cases h

/-- **Targets.** -/
theorem needs_of_target {r : Routing} (hr : M.ui.routing = some r)
    {entry : String × Option RoutingTarget} (hmem : entry ∈ r.targets.getD [])
    (h : .dependency x ∈ targetFindings r.config entry) :
    x.conditional = false ∧ M.Needs x.module := by
  obtain ⟨key, t?⟩ := entry
  unfold targetFindings at h
  split at h
  · cases h
  · rename_i t ht
    obtain ⟨rfl, hown⟩ := Option.filter_eq_some_iff.mp ht
    obtain ⟨own, hown⟩ := Option.isSome_iff_exists.mp hown
    obtain ⟨hown, hne⟩ := TargetView.nonEmpty?_eq_some_iff.mp hown
    dsimp only at h
    split at h
    · rename_i type name htype hname
      obtain ⟨htype, htne⟩ := TargetView.nonEmpty?_eq_some_iff.mp htype
      cases List.mem_singleton.mp h
      exact ⟨rfl, .target hr hmem hown hne hname htype htne⟩
    · cases List.mem_singleton.mp h

end Rules

/-! ## §3 All rules together -/

section AllRules

variable {M : Manifest} {module : String} {conditional : Bool}

/-- What the rules add is listed or needed. -/
theorem lists_or_needs_of_mem (h : (module, conditional) ∈ M.additions) :
    M.Lists module conditional ∨ (conditional = false ∧ M.Needs module) := by
  obtain ⟨d, hd, hmem⟩ := List.mem_flatMap.mp h
  simp only [Manifest.derivations, List.mem_cons, List.not_mem_nil, or_false] at hd
  rcases hd with rfl | rfl | rfl | rfl | rfl | rfl
  · exact .inr (needs_of_rootView (Derivation.mem_additions_ofFindings.mp hmem))
  · exact .inl (lists_of_library (Derivation.mem_additions_ofFindings.mp hmem))
  · exact .inl (lists_of_component (Derivation.mem_additions_ofFindings.mp hmem))
  · exact .inl (lists_of_usage (Derivation.mem_additions_ofFindings.mp hmem))
  · rw [modelRule_eq] at hmem
    exact .inr (needs_of_model (Derivation.mem_additions_ofFindings.mp hmem))
  · have hmem := Derivation.mem_additions_ofFindings.mp hmem
    split at hmem
    · cases hmem
    · rename_i r hr
      rcases List.mem_append.mp hmem with hmem | hmem
      · exact .inr (needs_of_routingClasses hr hmem)
      · obtain ⟨entry, hentry, hmem⟩ := List.mem_flatMap.mp hmem
        exact .inr (needs_of_target hr hentry hmem)

/-- A finding of one of the rules is added. -/
theorem mem_additions_of_finding {rule : String} {fs : List Finding}
    (hrule : Derivation.ofFindings rule fs ∈ M.derivations)
    (h : .dependency ⟨module, conditional⟩ ∈ fs) : (module, conditional) ∈ M.additions :=
  List.mem_flatMap.mpr ⟨_, hrule, Derivation.mem_additions_ofFindings.mpr h⟩

/-- What is listed is added. -/
theorem mem_additions_of_lists (h : M.Lists module conditional) :
    (module, conditional) ∈ M.additions := by
  cases h with
  | library hmem =>
    have hrule : libraryRule M ∈ M.derivations := by simp [Manifest.derivations]
    exact mem_additions_of_finding hrule (List.mem_map.mpr ⟨_, hmem, rfl⟩)
  | component hmem =>
    have hrule : componentRule M ∈ M.derivations := by simp [Manifest.derivations]
    exact mem_additions_of_finding hrule (List.mem_map.mpr ⟨_, hmem, rfl⟩)
  | @usage key name u hmem hname hne =>
    have hrule : componentUsageRule M ∈ M.derivations := by simp [Manifest.derivations]
    refine mem_additions_of_finding hrule (List.mem_map.mpr ⟨_, hmem, ?_⟩)
    have hname' := TargetView.nonEmpty?_eq_some_iff.mpr ⟨hname, hne⟩
    simp [usageFinding, hname']

/-- What the routing section finds is added. -/
theorem mem_additions_of_routing {r : Routing} (hr : M.ui.routing = some r)
    (h : .dependency ⟨module, conditional⟩ ∈
      r.classFindings ++ (r.targets.getD []).flatMap (targetFindings r.config)) :
    (module, conditional) ∈ M.additions := by
  have hrule : routingRule M ∈ M.derivations := by simp [Manifest.derivations]
  refine mem_additions_of_finding hrule ?_
  rw [hr]
  exact h

/-- What is needed is added, as required. -/
theorem mem_additions_of_needs (h : M.Needs module) : (module, false) ∈ M.additions := by
  have hroot : rootViewRule M ∈ M.derivations := by simp [Manifest.derivations]
  cases h with
  | namedView hview hne =>
    refine mem_additions_of_finding hroot ?_
    rename_i name
    have hname : nonEmpty? (some name) = some name :=
      TargetView.nonEmpty?_eq_some_iff.mpr ⟨rfl, hne⟩
    have htype : nonEmpty? (some defaultViewType) = some defaultViewType := rfl
    simp [rootViewFindings, hview, hne, ViewOptions.finding, hname, htype]
  | viewOptions hview hname hne =>
    refine mem_additions_of_finding hroot ?_
    have hname' := TargetView.nonEmpty?_eq_some_iff.mpr ⟨hname, hne⟩
    simp [rootViewFindings, hview, ViewOptions.finding, hname']
  | model hmem htype =>
    have hrule : modelRule M ∈ M.derivations := by simp [Manifest.derivations]
    rw [modelRule_eq] at hrule
    refine mem_additions_of_finding hrule (List.mem_map.mpr ⟨_, hmem, ?_⟩)
    simp [Manifest.modelFinding, htype]
  | router hr hroutes =>
    refine mem_additions_of_routing hr (List.mem_append_left _ ?_)
    simp [Routing.classFindings, hroutes]
  | @targetsClass r hr hroutes htargets =>
    refine mem_additions_of_routing hr (List.mem_append_left _ ?_)
    cases hclass : r.config.bind fun c => nonEmpty? c.targetsClass <;>
      simp [Routing.classFindings, hroutes, htargets, hclass]
  | views hr hroutes htargets =>
    refine mem_additions_of_routing hr (List.mem_append_left _ ?_)
    simp [Routing.classFindings, hroutes, htargets]
  | target hr hmem hown hne hname htype htne =>
    refine mem_additions_of_routing hr (List.mem_append_right _ ?_)
    refine List.mem_flatMap.mpr ⟨_, hmem, ?_⟩
    have hown' := TargetView.nonEmpty?_eq_some_iff.mpr ⟨hown, hne⟩
    have htype' := TargetView.nonEmpty?_eq_some_iff.mpr ⟨htype, htne⟩
    simp [targetFindings, Option.filter, hown', htype', hname]

/-- **The rules derive what the manifest lists and needs.** -/
theorem mem_additions_iff :
    (module, conditional) ∈ M.additions ↔
      M.Lists module conditional ∨ (conditional = false ∧ M.Needs module) := by
  refine ⟨lists_or_needs_of_mem, ?_⟩
  rintro (h | ⟨rfl, h⟩)
  · exact mem_additions_of_lists h
  · exact mem_additions_of_needs h

end AllRules

/-! ## §4 Strengths -/

theorem Manifest.derive_defaultRules (M : Manifest) (component : Option String)
    (d : DependencySet) :
    M.derive defaultRules component d = .ok (addDerived component d M.derivations) := by
  rw [Manifest.derive, deriveAll_defaultRules]
  rfl

/-- What is listed has the file name of a library or a component. -/
theorem Manifest.Lists.exists_prefix {M : Manifest} {module : String} {lazy : Bool}
    (h : M.Lists module lazy) :
    ∃ p, module = p ++ librarySuffix ∨ module = p ++ componentSuffix := by
  cases h with
  | library _ => exact ⟨_, .inl rfl⟩
  | component _ => exact ⟨_, .inr rfl⟩
  | usage _ _ _ => exact ⟨_, .inr rfl⟩

/-- Only what is listed or needed is there. -/
theorem contains_addAll_additions {M : Manifest} {module : String} :
    (DependencySet.empty.addAll M.additions).contains module = true ↔
      (∃ lazy, M.Lists module lazy) ∨ M.Needs module := by
  simp only [DependencySet.contains_addAll, DependencySet.contains_empty, Bool.false_eq_true,
    false_or, mem_additions_iff]
  constructor
  · rintro ⟨lazy, hl | ⟨-, hn⟩⟩
    · exact .inl ⟨lazy, hl⟩
    · exact .inr hn
  · rintro (⟨lazy, hl⟩ | hn)
    · exact ⟨lazy, .inl hl⟩
    · exact ⟨false, .inr ⟨rfl, hn⟩⟩

/-- What is required is listed as not lazy, or needed. -/
theorem isRequired_addAll_additions {M : Manifest} {module : String} :
    (DependencySet.empty.addAll M.additions).isRequired module = true ↔
      M.Lists module false ∨ M.Needs module := by
  simp [DependencySet.isRequired_addAll, mem_additions_iff]

theorem isConditional_addAll_additions {M : Manifest} {module : String} :
    (DependencySet.empty.addAll M.additions).isConditional module = true ↔
      (∃ lazy, M.Lists module lazy) ∧ (∀ lazy, M.Lists module lazy → lazy = true) ∧
        ¬ M.Needs module := by
  rw [DependencySet.isConditional_iff_contains, contains_addAll_additions,
    isRequired_addAll_additions, not_or]
  constructor
  · rintro ⟨hl | hn, hreq, hneed⟩
    · refine ⟨hl, fun lazy h => ?_, hneed⟩
      cases lazy with
      | true => rfl
      | false => exact absurd h hreq
    · exact absurd hn hneed
  · rintro ⟨hl, hall, hneed⟩
    refine ⟨.inl hl, fun h => ?_, hneed⟩
    cases hall false h

/-- **Strengths of the default rules**: they never fail, and from no
dependencies a module becomes conditional exactly when some entry of the
libraries, components or component usages maps to it, all that do are lazy,
and neither root view nor models nor routing call for it. It becomes
required exactly when it is listed or needed and not conditional. So only
files of libraries and components are conditional. -/
theorem default_strengths (M : Manifest) (component : Option String) :
    ∃ o, M.derive defaultRules component .empty = .ok o ∧
      (∀ module, o.dependencies.isConditional module = true ↔
        (∃ lazy, M.Lists module lazy) ∧ (∀ lazy, M.Lists module lazy → lazy = true) ∧
          ¬ M.Needs module) ∧
      (∀ module, o.dependencies.isRequired module = true ↔
        ((∃ lazy, M.Lists module lazy) ∨ M.Needs module) ∧
          ¬ o.dependencies.isConditional module = true) ∧
      (∀ module, o.dependencies.isConditional module = true →
        ∃ p, module = p ++ librarySuffix ∨ module = p ++ componentSuffix) := by
  refine ⟨_, M.derive_defaultRules component .empty,
    fun module => isConditional_addAll_additions, fun module => ?_, fun module h => ?_⟩
  · rw [DependencySet.isRequired_iff_contains]
    exact and_congr_left fun _ => contains_addAll_additions
  · obtain ⟨⟨lazy, hl⟩, -⟩ := isConditional_addAll_additions.mp h
    exact hl.exists_prefix

end ManifestDeps
