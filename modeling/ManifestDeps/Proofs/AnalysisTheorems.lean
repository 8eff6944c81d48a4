/-
ManifestDeps.Proofs.AnalysisTheorems — what the analysis of a component
comes to.

An analysis takes one of five courses: the component is exempt, its
descriptor is missing, its descriptor is malformed, something failed, or
all rules gave their outcome. `Analyzer.Takes` says when it takes which, in
terms of the pool, the reader and the single rules; `Analyzer.course`
computes it, and `takes_iff` ties the two together, so that exactly one
course is taken. A course is settled before anything is added. What is
left behind is then a function of the course and of what was there before
(`analyze_eq_outcome`), and only the last course adds anything: rule by
rule, each dependency reported and added, then the rule's own warnings
(`Outcome.addDerivation`).
-/
import Mathlib.Logic.ExistsUnique
import ManifestDeps.Analysis
import ManifestDeps.Proofs.DependencyTheorems
import ManifestDeps.Proofs.DerivationTheorems

namespace ManifestDeps

/-! ## §1 Adding rule by rule -/

namespace Outcome

/-- Report a derived dependency and add it. -/
def addDependency (component rule : String) (o : Outcome) (x : DerivedDependency) :
    Outcome where
  dependencies := o.dependencies.add x.module x.conditional
  reports := o.reports ++ [addedReport (some component) rule x]

/-- Pass on a report of a rule, as one about the component. -/
def addReport (component : String) (o : Outcome) (w : Diagnostic) : Outcome where
  dependencies := o.dependencies
  reports := o.reports ++ [w.forComponent component]

/-- Take the outcome of one rule: its dependencies one by one, then its own
reports. -/
def addDerivation (component : String) (o : Outcome) (d : Derivation) : Outcome :=
  d.diagnostics.foldl (addReport component)
    (d.dependencies.foldl (addDependency component d.rule) o)

variable {component rule : String} {o : Outcome}

theorem foldl_addDependency (xs : List DerivedDependency) :
    xs.foldl (addDependency component rule) o =
      ⟨o.dependencies.addAll (xs.map fun x => (x.module, x.conditional)),
        o.reports ++ xs.map (addedReport (some component) rule)⟩ := by
  induction xs generalizing o with
  | nil => simp
  | cons x rest ih =>
    rw [List.foldl_cons, ih]
    simp [addDependency]

theorem foldl_addReport (ws : List Diagnostic) :
    ws.foldl (addReport component) o =
      ⟨o.dependencies, o.reports ++ ws.map (·.forComponent component)⟩ := by
  induction ws generalizing o with
  | nil => simp
  | cons w rest ih =>
    rw [List.foldl_cons, ih]
    simp [addReport]

theorem addDerivation_eq (d : Derivation) :
    o.addDerivation component d =
      ⟨o.dependencies.addAll d.additions, o.reports ++ d.reports (some component)⟩ := by
  rw [addDerivation, foldl_addDependency, foldl_addReport, List.append_assoc]
  rfl

theorem foldl_addDerivation (rs : List Derivation) :
    rs.foldl (addDerivation component) o =
      ⟨o.dependencies.addAll (rs.flatMap Derivation.additions),
        o.reports ++ rs.flatMap (Derivation.reports (some component))⟩ := by
  induction rs generalizing o with
  | nil => simp
  | cons d rest ih =>
    rw [List.foldl_cons, ih, addDerivation_eq]
    simp [DependencySet.addAll_append]

end Outcome

/-- Adding what all rules derived is adding rule by rule. -/
theorem addDerived_eq_foldl (component : String) (d : DependencySet) (rs : List Derivation) :
    addDerived (some component) d rs = rs.foldl (Outcome.addDerivation component) ⟨d, []⟩ := by
  rw [Outcome.foldl_addDerivation]
  rfl

/-! ## §2 The courses of an analysis -/

/-- The courses that an analysis can take. -/
inductive Course where
  /-- The component is the base component. -/
  | exempt
  /-- There is no descriptor. -/
  | missing
  /-- The descriptor is no manifest. -/
  | malformed (fault : ManifestFault)
  /-- Finding, reading or evaluating the descriptor failed otherwise. -/
  | failed (f : Failure)
  /-- Every rule gave its outcome. -/
  | derived (rs : List Derivation)

/-- The descriptor of a component is found and read as these bytes. -/
def Pool.Reads (pool : Pool) (component : String) (bytes : List UInt8) : Prop :=
  ∃ resource, pool.find (ModuleName.descriptorOf component) = .ok resource ∧
    resource.content = .ok bytes

/-- The descriptor of a component is a manifest. -/
def Pool.Holds (pool : Pool) (component : String) (m : Manifest) : Prop :=
  ∃ bytes, pool.Reads component bytes ∧
    Manifest.parse (ModuleName.descriptorOf component) (.bytes bytes) = .ok m

/-- When an analysis takes which course. -/
inductive Analyzer.Takes (a : Analyzer) (c : String) : Course → Prop where
  | exempt : c = ModuleName.baseComponent → Takes a c .exempt
  | missing {name : String} : c ≠ ModuleName.baseComponent →
      a.pool.find (ModuleName.descriptorOf c) = .error (.resourceNotFound name) →
      Takes a c .missing
  | malformed {bytes : List UInt8} {e : ManifestError} : c ≠ ModuleName.baseComponent →
      a.pool.Reads c bytes →
      Manifest.parse (ModuleName.descriptorOf c) (.bytes bytes) = .error (.invalid e) →
      Takes a c (.malformed e.fault)
  | lookupFailed {f : Failure} : c ≠ ModuleName.baseComponent →
      a.pool.find (ModuleName.descriptorOf c) = .error f →
      (∀ name, f ≠ .resourceNotFound name) → Takes a c (.failed f)
  | readingFailed {resource : Resource} {f : Failure} : c ≠ ModuleName.baseComponent →
      a.pool.find (ModuleName.descriptorOf c) = .ok resource → resource.content = .error f →
      Takes a c (.failed f)
  | limitExceeded {bytes : List UInt8} {e : Json.LimitError} : c ≠ ModuleName.baseComponent →
      a.pool.Reads c bytes →
      Manifest.parse (ModuleName.descriptorOf c) (.bytes bytes) = .error (.limit e) →
      Takes a c (.failed (.limit e))
  | ruleFailed {m : Manifest} {before after : List Rule} {rule : Rule} {f : Failure} :
      c ≠ ModuleName.baseComponent → a.pool.Holds c m → a.rules = before ++ rule :: after →
      (∀ r ∈ before, ∃ d, r m = .ok d) → rule m = .error f → Takes a c (.failed f)
  | derived {m : Manifest} {rs : List Derivation} : c ≠ ModuleName.baseComponent →
      a.pool.Holds c m → List.Forall₂ (fun rule d => rule m = .ok d) a.rules rs →
      Takes a c (.derived rs)

/-- The course that an analysis takes. -/
def Analyzer.course (a : Analyzer) (c : String) : Course :=
  if c = ModuleName.baseComponent then .exempt
  else
    match a.pool.find (ModuleName.descriptorOf c) with
    | .error (.resourceNotFound _) => .missing
    | .error f => .failed f
    | .ok resource =>
      match resource.content with
      | .error f => .failed f
      | .ok bytes =>
        match Manifest.parse (ModuleName.descriptorOf c) (.bytes bytes) with
        | .error (.invalid e) => .malformed e.fault
        | .error (.limit e) => .failed (.limit e)
        | .ok m =>
          match deriveAll a.rules m with
          | .error f => .failed f
          | .ok rs => .derived rs

theorem Analyzer.takes_course (a : Analyzer) (c : String) : a.Takes c (a.course c) := by
  unfold Analyzer.course
  split
  · rename_i hc
    exact .exempt hc
  · rename_i hc
    split
    · rename_i name hfind
      exact .missing hc hfind
    · rename_i f hne hfind
      exact .lookupFailed hc hfind hne
    · rename_i resource hfind
      split
      · rename_i f hread
        exact .readingFailed hc hfind hread
      · rename_i bytes hread
        split
        · rename_i e hparse
          exact .malformed hc ⟨resource, hfind, hread⟩ hparse
        · rename_i e hparse
          exact .limitExceeded hc ⟨resource, hfind, hread⟩ hparse
        · rename_i m hparse
          have hholds : a.pool.Holds c m := ⟨bytes, ⟨resource, hfind, hread⟩, hparse⟩
          split
          · rename_i f hderive
            obtain ⟨before, rule, after, hsplit, hb, hrule⟩ := deriveAll_eq_error_iff.mp hderive
            exact .ruleFailed hc hholds hsplit hb hrule
          · rename_i rs hderive
            exact .derived hc hholds (deriveAll_eq_ok_iff.mp hderive)

theorem Analyzer.course_eq_of_takes {a : Analyzer} {c : String} {k : Course}
    (h : a.Takes c k) : a.course c = k := by
  cases h with
  | exempt hc => simp [course, hc]
  | missing hc hfind => simp [course, hc, hfind]
  | malformed hc hreads hparse =>
    obtain ⟨resource, hfind, hread⟩ := hreads
    simp [course, hc, hfind, hread, hparse]
  | lookupFailed hc hfind hne =>
    rename_i f
    cases f with
    | resourceNotFound name => exact absurd rfl (hne name)
    | _ => simp [course, hc, hfind]
  | readingFailed hc hfind hread => simp [course, hc, hfind, hread]
  | limitExceeded hc hreads hparse =>
    obtain ⟨resource, hfind, hread⟩ := hreads
    simp [course, hc, hfind, hread, hparse]
  | ruleFailed hc hholds hsplit hb hrule =>
    obtain ⟨bytes, ⟨resource, hfind, hread⟩, hparse⟩ := hholds
    have hderive := deriveAll_eq_error_iff.mpr ⟨_, _, _, hsplit, hb, hrule⟩
    simp [course, hc, hfind, hread, hparse, hderive]
  | derived hc hholds hall =>
    obtain ⟨bytes, ⟨resource, hfind, hread⟩, hparse⟩ := hholds
    have hderive := deriveAll_eq_ok_iff.mpr hall
    simp [course, hc, hfind, hread, hparse, hderive]

/-- The analysis takes the course that is computed, and no other. -/
theorem Analyzer.takes_iff {a : Analyzer} {c : String} {k : Course} :
    a.Takes c k ↔ a.course c = k :=
  ⟨course_eq_of_takes, fun h => h ▸ a.takes_course c⟩

/-! ## §3 What a course leaves behind -/

namespace Course

/-- What a course leaves behind, from the dependencies that were there. -/
def outcome (c : String) (d : DependencySet) : Course → Outcome
  | exempt => ⟨d, []⟩
  | missing => ⟨d, [notFoundReport c (ModuleName.descriptorOf c)]⟩
  | malformed fault => ⟨d, [parseErrorReport c (ModuleName.descriptorOf c) fault]⟩
  | failed f => ⟨d, [failedReport c f]⟩
  | derived rs => rs.foldl (Outcome.addDerivation c) ⟨d, []⟩

/-- What a course adds. -/
def additions : Course → List (String × Bool)
  | derived rs => rs.flatMap Derivation.additions
  | _ => []

/-- A course adds the same, whatever was there. -/
theorem outcome_dependencies (c : String) (d : DependencySet) (k : Course) :
    (k.outcome c d).dependencies = d.addAll k.additions := by
  cases k with
  | derived rs => rw [outcome, Outcome.foldl_addDerivation]; rfl
  | _ => rfl

/-- A course reports the same, whatever was there. -/
theorem outcome_reports (c : String) (d e : DependencySet) (k : Course) :
    (k.outcome c d).reports = (k.outcome c e).reports := by
  cases k with
  | derived rs => rw [outcome, outcome, Outcome.foldl_addDerivation, Outcome.foldl_addDerivation]
  | _ => rfl

end Course

theorem Analyzer.analyze_eq_outcome (a : Analyzer) (c : String) (d : DependencySet) :
    a.analyze c d = (a.course c).outcome c d := by
  unfold Analyzer.analyze Analyzer.course Pool.load
  by_cases hc : c = ModuleName.baseComponent
  · simp [hc, ModuleName.isBaseComponent, Course.outcome]
  · have hbase : ModuleName.isBaseComponent c = false := by simp [ModuleName.isBaseComponent, hc]
    simp only [hbase, hc, if_false, Bool.false_eq_true]
    cases hfind : a.pool.find (ModuleName.descriptorOf c) with
    | error f => cases f <;> rfl
    | ok resource =>
      simp only
      cases hread : resource.content with
      | error f => rfl
      | ok bytes =>
        simp only
        cases hparse : Manifest.parse (ModuleName.descriptorOf c) (.bytes bytes) with
        | error e => cases e <;> rfl
        | ok m =>
          simp only [Manifest.derive]
          cases hderive : deriveAll a.rules m with
          | error f => rfl
          | ok rs => exact addDerived_eq_foldl c d rs

/-! ## §4 The courses one by one -/

section Courses

variable {a : Analyzer} {c : String} {bytes : List UInt8}

/-- A descriptor is read in one way. -/
theorem Pool.Reads.unique {pool : Pool} {bytes' : List UInt8} (h : pool.Reads c bytes)
    (h' : pool.Reads c bytes') : bytes = bytes' := by
  obtain ⟨r, hr, hbytes⟩ := h
  obtain ⟨r', hr', hbytes'⟩ := h'
  rw [hr] at hr'
  cases hr'
  rw [hbytes] at hbytes'
  exact Except.ok.inj hbytes'

/-- What is refused is no manifest. -/
theorem Pool.Reads.not_holds {pool : Pool} {e : ManifestFailure} (h : pool.Reads c bytes)
    (hparse : Manifest.parse (ModuleName.descriptorOf c) (.bytes bytes) = .error e) :
    ¬∃ m, pool.Holds c m := by
  rintro ⟨m, bytes', hreads, hm⟩
  rw [h.unique hreads, hm] at hparse
  cases hparse

theorem Analyzer.analyze_of_exempt (hc : c = ModuleName.baseComponent) (d : DependencySet) :
    a.analyze c d = ⟨d, []⟩ := by
  rw [analyze_eq_outcome, course_eq_of_takes (.exempt hc)]
  rfl

theorem Analyzer.analyze_of_invalid {e : ManifestError} (hc : c ≠ ModuleName.baseComponent)
    (hreads : a.pool.Reads c bytes)
    (hparse : Manifest.parse (ModuleName.descriptorOf c) (.bytes bytes) = .error (.invalid e))
    (d : DependencySet) :
    a.analyze c d = ⟨d, [parseErrorReport c (ModuleName.descriptorOf c) e.fault]⟩ := by
  rw [analyze_eq_outcome, course_eq_of_takes (.malformed hc hreads hparse)]
  rfl

theorem Analyzer.analyze_of_holds {m : Manifest} (hrules : a.rules = defaultRules)
    (hc : c ≠ ModuleName.baseComponent) (hholds : a.pool.Holds c m) (d : DependencySet) :
    a.analyze c d = addDerived (some c) d m.derivations := by
  have hall : List.Forall₂ (fun rule d => rule m = .ok d) a.rules m.derivations := by
    rw [hrules]
    exact deriveAll_eq_ok_iff.mp (deriveAll_defaultRules m)
  rw [analyze_eq_outcome, course_eq_of_takes (.derived hc hholds hall), addDerived_eq_foldl]
  rfl

end Courses

/-! ## §5 The component that a report names -/

/-- What a report says of its component, once it is about one. -/
theorem Diagnostic.lookup_component_forComponent (c : String) (w : Diagnostic) :
    (w.forComponent c).context.lookup "component" =
      some ((w.context.lookup "component").getD (.str c)) := by
  simp [forComponent]

theorem Diagnostic.component?_forComponent {c : String} {w : Diagnostic}
    (h : w.context.lookup "component" = none) : (w.forComponent c).component? = some c := by
  rw [component?, lookup_component_forComponent, h]
  rfl

theorem Derivation.mem_reports {c : String} {x : Derivation} {r : Diagnostic} :
    r ∈ x.reports (some c) ↔
      (∃ y ∈ x.dependencies, addedReport (some c) x.rule y = r) ∨
        ∃ w ∈ x.diagnostics, w.forComponent c = r := by
  simp only [reports, Option.elim_some, List.mem_append, List.mem_map]

namespace Course

/-- The reports of a course are about the component, unless a rule has
reported about a component itself. -/
theorem component_of_mem_reports {c : String} {d : DependencySet} {k : Course}
    {r : Diagnostic} (h : r ∈ (k.outcome c d).reports) :
    r.component? = some c ∨
      ∃ rs, k = .derived rs ∧ ∃ x ∈ rs, ∃ w ∈ x.diagnostics,
        w.forComponent c = r ∧ w.context.lookup "component" ≠ none := by
  cases k with
  | exempt => cases h
  | missing =>
    rw [List.mem_singleton.mp h]
    exact .inl rfl
  | malformed fault =>
    rw [List.mem_singleton.mp h]
    exact .inl rfl
  | failed f =>
    rw [List.mem_singleton.mp h]
    exact .inl rfl
  | derived rs =>
    rw [outcome, Outcome.foldl_addDerivation, List.nil_append] at h
    obtain ⟨x, hx, hr⟩ := List.mem_flatMap.mp h
    rcases Derivation.mem_reports.mp hr with ⟨y, -, rfl⟩ | ⟨w, hw, rfl⟩
    · exact .inl rfl
    · cases hl : w.context.lookup "component" with
      | none => exact .inl (Diagnostic.component?_forComponent hl)
      | some v => exact .inr ⟨rs, rfl, x, hx, w, hw, rfl, by simp [hl]⟩

/-- Every report of a course has a component in front. -/
theorem head?_context_of_mem_reports {c : String} {d : DependencySet} {k : Course}
    {r : Diagnostic} (h : r ∈ (k.outcome c d).reports) :
    r.context.head?.map Prod.fst = some "component" := by
  cases k with
  | exempt => cases h
  | missing => rw [List.mem_singleton.mp h]; rfl
  | malformed fault => rw [List.mem_singleton.mp h]; rfl
  | failed f => rw [List.mem_singleton.mp h]; rfl
  | derived rs =>
    rw [outcome, Outcome.foldl_addDerivation, List.nil_append] at h
    obtain ⟨x, -, hr⟩ := List.mem_flatMap.mp h
    rcases Derivation.mem_reports.mp hr with ⟨y, -, rfl⟩ | ⟨w, -, rfl⟩ <;> rfl

end Course

/-- Rules of the program, and rules that always fail. -/
def Analyzer.UsesDefaultRules (a : Analyzer) : Prop :=
  ∀ rule ∈ a.rules, rule ∈ defaultRules ∨ ∀ m, ∃ f, rule m = .error f

/-- What the rules themselves report is of a kind. -/
def Analyzer.RulesReport (a : Analyzer) (P : Diagnostic → Prop) : Prop :=
  ∀ rule ∈ a.rules, ∀ m x, rule m = .ok x → ∀ w ∈ x.diagnostics, P w

/-- What holds of the seven shapes holds of all that such rules report. -/
theorem Analyzer.UsesDefaultRules.rulesReport {a : Analyzer} (h : a.UsesDefaultRules)
    {P : Diagnostic → Prop} (hP : ∀ m w, RuleWarning m w → P w) : a.RulesReport P := by
  intro rule hrule m x hok w hw
  rcases h rule hrule with hd | hf
  · exact hP m w (ruleWarning_of_mem_diagnostics (mem_derivations_of_defaultRule hd hok) hw)
  · obtain ⟨f, hf⟩ := hf m
    rw [hf] at hok
    cases hok

/-- No rule itself reports about a component. -/
def Analyzer.LeavesComponentOpen (a : Analyzer) : Prop :=
  a.RulesReport fun w => w.context.lookup "component" = none

theorem Analyzer.UsesDefaultRules.leavesComponentOpen {a : Analyzer}
    (h : a.UsesDefaultRules) : a.LeavesComponentOpen :=
  h.rulesReport fun _ _ hw => hw.lookup_component

/-- Then every report names the analyzed component. -/
theorem Analyzer.LeavesComponentOpen.component?_eq {a : Analyzer}
    (h : a.LeavesComponentOpen) {c : String} {d : DependencySet} {r : Diagnostic}
    (hr : r ∈ (a.analyze c d).reports) : r.component? = some c := by
  rw [a.analyze_eq_outcome] at hr
  rcases Course.component_of_mem_reports hr with hc | ⟨rs, hk, x, hx, w, hw, -, hne⟩
  · exact hc
  · cases Analyzer.takes_iff.mpr hk with
    | derived _ _ hall =>
      obtain ⟨rule, hrule, hok⟩ := exists_rule_of_mem hall hx
      exact absurd (h rule hrule _ x hok w hw) hne

/-- With the default rules, every report names the component. -/
theorem Analyzer.UsesDefaultRules.component?_eq {a : Analyzer} (h : a.UsesDefaultRules)
    {c : String} {d : DependencySet} {r : Diagnostic} (hr : r ∈ (a.analyze c d).reports) :
    r.component? = some c :=
  h.leavesComponentOpen.component?_eq hr

/-! ## §6 One of five outcomes -/

/-- What is asked of the outcome of each course. -/
def Course.Leaves (c : String) (d : DependencySet) (o : Outcome) : Course → Prop
  | exempt => o = ⟨d, []⟩
  | missing => ∃ r, o = ⟨d, [r]⟩ ∧ r.severity = .verbose ∧ r.code = .manifestNotFound
  | malformed fault =>
    ∃ r, o = ⟨d, [r]⟩ ∧ r.severity = .error ∧ r.code = .manifestParseError ∧
      r.context.lookup "error" = some (.fault fault)
  | failed f =>
    ∃ r, o = ⟨d, [r]⟩ ∧ r.severity = .error ∧ r.code = .analysisFailed ∧
      r.context.lookup "error" = some (.failure f)
  | derived rs => o = rs.foldl (Outcome.addDerivation c) ⟨d, []⟩

theorem Course.leaves_outcome (c : String) (d : DependencySet) (k : Course) :
    k.Leaves c d (k.outcome c d) := by
  cases k with
  | exempt => rfl
  | missing => exact ⟨_, rfl, rfl, rfl⟩
  | malformed fault => exact ⟨_, rfl, rfl, rfl, rfl⟩
  | failed f => exact ⟨_, rfl, rfl, rfl, rfl⟩
  | derived rs => rfl

/-- **Containment**: an analysis takes exactly one of the five courses, and
leaves behind what that course asks for. Whatever fails, and at whichever
rule, the dependencies stay as they were and one report is made; only when
all rules gave their outcome is anything added. Every report has a
component in front. It is the analyzed one, unless a rule's own report
came with a component already, which stays; no default rule makes such a
report. -/
theorem analyze_takes_one_course (a : Analyzer) (c : String) (d : DependencySet) :
    (∃! k, a.Takes c k) ∧
      (∀ k, a.Takes c k → k.Leaves c d (a.analyze c d)) ∧
      (∀ r ∈ (a.analyze c d).reports,
        r.context.head?.map Prod.fst = some "component" ∧
          (r.component? = some c ∨
            ∃ rs, a.Takes c (.derived rs) ∧ ∃ x ∈ rs, ∃ w ∈ x.diagnostics,
              w.forComponent c = r ∧ w.context.lookup "component" ≠ none)) ∧
      (a.UsesDefaultRules → ∀ r ∈ (a.analyze c d).reports, r.component? = some c) := by
  refine ⟨⟨a.course c, a.takes_course c, fun k hk => ?_⟩, fun k hk => ?_, fun r hr => ?_,
    fun hu r hr => hu.component?_eq hr⟩
  · exact (Analyzer.takes_iff.mp hk).symm
  · rw [a.analyze_eq_outcome, Analyzer.takes_iff.mp hk]
    exact k.leaves_outcome c d
  · rw [a.analyze_eq_outcome] at hr
    refine ⟨Course.head?_context_of_mem_reports hr, ?_⟩
    rcases Course.component_of_mem_reports hr with hc | ⟨rs, hk, hrule⟩
    · exact .inl hc
    · exact .inr ⟨rs, Analyzer.takes_iff.mpr hk, hrule⟩

/-- A rule may report about a component of its own choice, and a component at
the root is not found to have the descriptor beside it. -/
theorem analyze_names_other_and_misses_root :
    let own : Diagnostic := ⟨.warn, .modelTypeUndefined, [("component", .str "other.js")]⟩
    let elsewhere : Analyzer :=
      { pool := .ofTable [("my/manifest.json", .text "\x7b\x7d")]
        rules := [fun _ => .ok { rule := "own", diagnostics := [own] }] }
    let descriptor := "\x7b\"sap.ui5\": \x7b\"dependencies\": \x7b\"libs\": \x7b\"a\": " ++
      "\x7b\x7d\x7d\x7d\x7d\x7d"
    let atRoot : Analyzer := { pool := .ofTable [("/manifest.json", .text descriptor)] }
    let o := elsewhere.analyze "my/Component.js" .empty
    let o' := atRoot.analyze "/Component.js" .empty
    o.reports.map (·.component?) = [some "other.js"] ∧
      (atRoot.pool.find "/manifest.json").isOk = true ∧
      o'.dependencies.entries = [] ∧ o'.reports.map (·.code) = [.manifestNotFound] := by
  decide +kernel

end ManifestDeps
