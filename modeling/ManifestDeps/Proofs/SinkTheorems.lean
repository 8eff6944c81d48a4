/-
ManifestDeps.Proofs.SinkTheorems — the sink of an analysis only listens,
unless it fails to be told.

An analysis calls its sink in the middle of its work, in several ways, and
goes on with the dependencies. What it does with what the rules gave is one
list of actions, each a report and perhaps the addition that it tells of
(`Derivation.actions`). Two lemmas say what becomes of such a list: all
additions are made, if the sink is told all reports (`Told.forM_act`), and
those up to the report that the sink fails to be told, if there is one
(`Told.forM_act_of_refused`). So as long as the sink is told what is
reported, the dependencies are those of an analysis that only lists its
reports (`Session.run_of_tell`), whatever the sink is.

What a list of reports leaves behind is an induction for each kind of sink.
A log has the lines that its threshold lets through (`Log.tellAll_eq`); it
can be told reports that can be written, and those that it does not look at
(`Log.tellAll_eq_ok_iff`). A recorder has the reports, and fails only if the
sink behind it does (`Recording.tellAll_eq`). Clearing is an event between
reports and touches the records alone (`Event.tell_recording`).
-/
import Mathlib.Data.List.DropRight
import ManifestDeps.Proofs.ShowableTheorems
import ManifestDeps.Session

namespace ManifestDeps

/-! ## §1 One thing after another -/

section Sequences

variable {ε σ α β : Type} {s s' : σ}

theorem bind_eq_ok_iff {x : EStateM ε σ α} {f : α → EStateM ε σ β} {b : β} :
    (x >>= f) s = .ok b s' ↔ ∃ a t, x s = .ok a t ∧ f a t = .ok b s' := by
  have hbind : (x >>= f) s = EStateM.bind x f s := rfl
  rw [hbind, EStateM.bind]
  cases x s <;> simp

theorem bind_of_ok {x : EStateM ε σ α} {f : α → EStateM ε σ β} {a : α} (h : x s = .ok a s') :
    (x >>= f) s = f a s' := by
  have hbind : (x >>= f) s = EStateM.bind x f s := rfl
  rw [hbind, EStateM.bind, h]

theorem bind_of_error {x : EStateM ε σ α} {f : α → EStateM ε σ β} {e : ε}
    (h : x s = .error e s') : (x >>= f) s = .error e s' := by
  have hbind : (x >>= f) s = EStateM.bind x f s := rfl
  rw [hbind, EStateM.bind, h]

theorem tryCatch_of_ok {x : EStateM ε σ α} {f : ε → EStateM ε σ α} {a : α}
    (h : x s = .ok a s') : tryCatch x f s = .ok a s' := by
  have hcatch : tryCatch x f s = EStateM.tryCatch x f s := rfl
  rw [hcatch, EStateM.tryCatch, h]

/-- Where something is caught, what was done before it stays. -/
theorem tryCatch_of_error {x : EStateM ε σ α} {f : ε → EStateM ε σ α} {e : ε}
    (h : x s = .error e s') : tryCatch x f s = f e s' := by
  have hcatch : tryCatch x f s = EStateM.tryCatch x f s := rfl
  rw [hcatch, EStateM.tryCatch, h]
  rfl

end Sequences

variable {σ τ : Type} [Sink σ] [Sink τ]

/-- Tell several reports. -/
def Sink.tellAll (ds : List Diagnostic) : EStateM Failure σ Unit :=
  forM ds Sink.emit

open Sink (emit tellAll)

theorem Sink.tellAll_cons_eq_ok_iff {s s' : σ} {d : Diagnostic} {ds : List Diagnostic} :
    tellAll (d :: ds) s = .ok () s' ↔
      ∃ t, emit d s = .ok () t ∧ tellAll ds t = .ok () s' := by
  rw [tellAll, List.forM_cons, bind_eq_ok_iff]
  constructor
  · rintro ⟨a, t, h, h'⟩
    exact ⟨t, h, h'⟩
  · rintro ⟨t, h, h'⟩
    exact ⟨(), t, h, h'⟩

theorem Sink.tellAll_singleton_eq_ok_iff {s s' : σ} {d : Diagnostic} :
    tellAll [d] s = .ok () s' ↔ emit d s = .ok () s' := by
  rw [tellAll_cons_eq_ok_iff]
  constructor
  · rintro ⟨t, h, h'⟩
    cases h'
    exact h
  · exact fun h => ⟨s', h, rfl⟩

theorem Sink.tellAll_append_eq_ok_iff {s s' : σ} {ds es : List Diagnostic} :
    tellAll (ds ++ es) s = .ok () s' ↔
      ∃ t, tellAll ds s = .ok () t ∧ tellAll es t = .ok () s' := by
  rw [tellAll, List.forM_append, bind_eq_ok_iff]
  constructor
  · rintro ⟨a, t, h, h'⟩
    exact ⟨t, h, h'⟩
  · rintro ⟨t, h, h'⟩
    exact ⟨(), t, h, h'⟩

/-! ## §2 An analysis -/

/-- A report, and the addition that it tells of, if it tells of one. -/
abbrev Action := Diagnostic × Option (String × Bool)

/-- What is done with the outcome of one rule. -/
def Derivation.actions (component : Option String) (d : Derivation) : List Action :=
  d.dependencies.map (fun x => (addedReport component d.rule x, some (x.module, x.conditional))) ++
    d.diagnostics.map fun w => (component.elim w fun c => w.forComponent c, none)

theorem Derivation.reports_actions (component : Option String) (d : Derivation) :
    (d.actions component).map Prod.fst = d.reports component := by
  simp [actions, reports, Function.comp_def]

theorem Derivation.additions_actions (component : Option String) (d : Derivation) :
    (d.actions component).filterMap Prod.snd = d.additions := by
  simp [actions, additions, List.filterMap_append, List.filterMap_map]

namespace Told

variable {t : Told σ} {s s' : σ}

omit [Sink σ] in
theorem withSink_of_ok {α : Type} {x : EStateM Failure σ α} {a : α} (h : x t.sink = .ok a s) :
    withSink x t = .ok a { t with sink := s } := by
  rw [withSink, h]

omit [Sink σ] in
theorem withSink_of_error {α : Type} {x : EStateM Failure σ α} {f : Failure}
    (h : x t.sink = .error f s) : withSink x t = .error f { t with sink := s } := by
  rw [withSink, h]

/-- Tell a report, then make the addition. -/
def act (x : Action) : EStateM Failure (Told σ) Unit := do
  withSink (emit x.1)
  modify fun t => { t with dependencies := t.dependencies.addAll x.2.toList }

theorem act_of_ok {x : Action} (h : emit x.1 t.sink = .ok () s) :
    act x t = .ok () ⟨t.dependencies.addAll x.2.toList, s⟩ :=
  bind_of_ok (withSink_of_ok h)

/-- **The additions are made** when all reports are told. -/
theorem forM_act {as : List Action} (h : tellAll (as.map Prod.fst) t.sink = .ok () s) :
    forM as act t = .ok () ⟨t.dependencies.addAll (as.filterMap Prod.snd), s⟩ := by
  induction as generalizing t with
  | nil => cases h; rfl
  | cons x rest ih =>
    obtain ⟨s₁, hx, hrest⟩ := Sink.tellAll_cons_eq_ok_iff.mp h
    rw [List.forM_cons, bind_of_ok (act_of_ok hx), ih hrest]
    obtain ⟨r, add?⟩ := x
    cases add? <;> rfl

/-- **Up to a report that the sink fails to be told** all additions are made,
and no further one. -/
theorem forM_act_of_refused {before after : List Action} {x : Action} {f : Failure}
    (hbefore : tellAll (before.map Prod.fst) t.sink = .ok () s) (hx : emit x.1 s = .error f s') :
    forM (before ++ x :: after) act t =
      .error f ⟨t.dependencies.addAll (before.filterMap Prod.snd), s'⟩ := by
  rw [List.forM_append, bind_of_ok (forM_act hbefore), List.forM_cons]
  exact bind_of_error (bind_of_error (withSink_of_error hx))

theorem passOn_eq (component : Option String) (w : Diagnostic) :
    (passOn component w : EStateM Failure (Told σ) Unit) =
      act (component.elim w fun c => w.forComponent c, none) := by
  funext t
  rw [passOn]
  cases h : emit (component.elim w fun c => w.forComponent c) t.sink with
  | ok a s => rw [withSink_of_ok h, act_of_ok h]; rfl
  | error f s =>
    rw [withSink_of_error h]
    exact (bind_of_error (withSink_of_error h)).symm

theorem addDerivation_eq (component : Option String) (d : Derivation) :
    (addDerivation component d : EStateM Failure (Told σ) Unit) =
      forM (d.actions component) act := by
  rw [addDerivation, Derivation.actions, List.forM_append, List.forM_map, List.forM_map]
  simp only [← passOn_eq]
  rfl

theorem forM_addDerivation (component : Option String) (rs : List Derivation) :
    (forM rs (addDerivation component) : EStateM Failure (Told σ) Unit) =
      forM (rs.flatMap (Derivation.actions component)) act := by
  induction rs with
  | nil => rfl
  | cons d rest ih =>
    rw [List.forM_cons, ih, addDerivation_eq, List.flatMap_cons, List.forM_append]

end Told

theorem reports_actions (component : Option String) (rs : List Derivation) :
    (rs.flatMap (Derivation.actions component)).map Prod.fst =
      rs.flatMap (Derivation.reports component) := by
  rw [List.map_flatMap]
  simp only [Derivation.reports_actions]

theorem additions_actions (component : Option String) (rs : List Derivation) :
    (rs.flatMap (Derivation.actions component)).filterMap Prod.snd =
      rs.flatMap Derivation.additions := by
  rw [List.filterMap_flatMap]
  simp only [Derivation.additions_actions]

/-- Tell the report about what was found, if there is one. -/
def Loaded.tell : Loaded → EStateM Failure σ (Option Manifest)
  | exempt => pure none
  | skipped d => do
    emit d
    return none
  | found m => pure (some m)

/-- Loading tells its report, if it makes one. -/
theorem Pool.loadTelling_eq (pool : Pool) (c : String) :
    (pool.loadTelling c : EStateM Failure σ (Option Manifest)) =
      MonadExcept.ofExcept (pool.load c) >>= Loaded.tell := by
  unfold Pool.loadTelling Pool.load
  split
  · rfl
  · simp only
    rcases pool.find (ModuleName.descriptorOf c) with f | resource
    · cases f <;> rfl
    · simp only
      rcases resource.content with f | bytes
      · rfl
      · simp only
        rcases Manifest.parse (ModuleName.descriptorOf c) (.bytes bytes) with (e | e) | m <;> rfl

/-- The part of an analysis whose failure is caught. -/
def Analyzer.attempt (a : Analyzer) (c : String) : EStateM Failure (Told σ) Unit := do
  let m? ← Told.withSink (MonadExcept.ofExcept (a.pool.load c) >>= Loaded.tell)
  m?.elim (pure ()) fun m => m.deriveTelling a.rules (some c)

theorem Analyzer.analyzeTelling_eq (a : Analyzer) (c : String) :
    (a.analyzeTelling c : EStateM Failure (Told σ) Unit) =
      tryCatch (a.attempt c) fun f => Told.withSink (emit (failedReport c f)) := by
  rw [analyzeTelling, Pool.loadTelling_eq]
  congr
  funext m?
  cases m? <;> rfl

section Attempts

variable {a : Analyzer} {c : String} {t : Told σ} {s : σ}

theorem Analyzer.attempt_of_error {f : Failure} (h : a.pool.load c = .error f) :
    a.attempt c t = .error f t := by
  rw [attempt, h]
  rfl

theorem Analyzer.attempt_of_exempt (h : a.pool.load c = .ok .exempt) :
    a.attempt c t = .ok () t := by
  rw [attempt, h]
  rfl

theorem Analyzer.attempt_of_skipped {d : Diagnostic} (h : a.pool.load c = .ok (.skipped d))
    (hd : emit d t.sink = .ok () s) : a.attempt c t = .ok () { t with sink := s } := by
  have htell : (MonadExcept.ofExcept (a.pool.load c) >>= Loaded.tell) t.sink = .ok none s := by
    rw [h]
    exact bind_of_ok hd
  exact bind_of_ok (Told.withSink_of_ok htell)

theorem Analyzer.attempt_of_found {m : Manifest} (h : a.pool.load c = .ok (.found m)) :
    a.attempt c t = m.deriveTelling a.rules (some c) t := by
  rw [attempt, h]
  rfl

/-- **An analysis tells what it reports**, as long as the sink is told it, and
does nothing else to the sink, which has no say in the dependencies. -/
theorem Analyzer.analyzeTelling_of_tellAll (h : tellAll (a.reports c) t.sink = .ok () s) :
    a.analyzeTelling c t = .ok () ⟨(a.analyze c t.dependencies).dependencies, s⟩ := by
  have hfails {f : Failure} (hattempt : a.attempt c t = .error f t)
      (hf : tellAll [failedReport c f] t.sink = .ok () s) :
      a.analyzeTelling c t = .ok () { t with sink := s } := by
    rw [analyzeTelling_eq]
    exact (tryCatch_of_error hattempt).trans
      (Told.withSink_of_ok (Sink.tellAll_singleton_eq_ok_iff.mp hf))
  rw [← a.analyze_reports c t.dependencies] at h
  unfold Analyzer.analyze at h ⊢
  cases hload : a.pool.load c with
  | error f =>
    rw [hload] at h
    exact hfails (attempt_of_error hload) h
  | ok loaded =>
    rw [hload] at h
    cases loaded with
    | exempt =>
      cases h
      rw [analyzeTelling_eq]
      exact tryCatch_of_ok (attempt_of_exempt hload)
    | skipped report =>
      rw [analyzeTelling_eq]
      exact tryCatch_of_ok
        (attempt_of_skipped hload (Sink.tellAll_singleton_eq_ok_iff.mp h))
    | found m =>
      simp only [Manifest.derive] at h ⊢
      cases hderive : deriveAll a.rules m with
      | error f =>
        rw [hderive] at h
        refine hfails ?_ h
        rw [attempt_of_found hload, Manifest.deriveTelling, hderive]
        rfl
      | ok rs =>
        rw [hderive] at h
        rw [analyzeTelling_eq]
        refine tryCatch_of_ok ?_
        have hreports : tellAll ((rs.flatMap (Derivation.actions (some c))).map Prod.fst) t.sink =
            .ok () s := by
          rw [reports_actions]
          exact h
        have hmade := Told.forM_act hreports
        rw [additions_actions, ← Told.forM_addDerivation] at hmade
        rw [attempt_of_found hload, Manifest.deriveTelling, hderive]
        exact hmade

/-- **Where the sink fails to be told** a report of the rules, the additions
told before are made and no others, and the failure of the sink is told as
that of the analysis. -/
theorem Analyzer.analyzeTelling_of_refused {m : Manifest} {rs : List Derivation}
    {before after : List Action} {x : Action} {s' : σ} {f : Failure}
    (hload : a.pool.load c = .ok (.found m)) (hderive : deriveAll a.rules m = .ok rs)
    (hactions : rs.flatMap (Derivation.actions (some c)) = before ++ x :: after)
    (hbefore : tellAll (before.map Prod.fst) t.sink = .ok () s)
    (hx : emit x.1 s = .error f s') :
    a.analyzeTelling c t =
      Told.withSink (emit (failedReport c f))
        ⟨t.dependencies.addAll (before.filterMap Prod.snd), s'⟩ := by
  rw [analyzeTelling_eq]
  refine tryCatch_of_error ?_
  have hstopped : forM (before ++ x :: after) Told.act t =
      .error f ⟨t.dependencies.addAll (before.filterMap Prod.snd), s'⟩ :=
    Told.forM_act_of_refused hbefore hx
  rw [← hactions, ← Told.forM_addDerivation] at hstopped
  rw [attempt_of_found hload, Manifest.deriveTelling, hderive]
  exact hstopped

end Attempts

/-! ## §3 A session -/

namespace Event

/-- What is reported at an event. -/
def reports : Event → List Diagnostic
  | .analyze a component _ => a.reports component
  | .clear => []

/-- What an event makes of the dependencies, by an analysis that lists its
reports. -/
def dependencies (all : String → DependencySet) : Event → String → DependencySet
  | .analyze a component module =>
    Session.setDependencies all module (a.analyze component (all module)).dependencies
  | .clear => all

/-- Tell a sink what is reported at an event, or clear it. -/
def tell : Event → EStateM Failure σ Unit
  | .analyze a component _ => tellAll (a.reports component)
  | .clear => modify Sink.clear

end Event

namespace Session

theorem step_of_tell {s : Session σ} {e : Event} {t : σ} (h : e.tell s.sink = .ok () t) :
    step e s = .ok () ⟨e.dependencies s.dependencies, t⟩ := by
  cases e with
  | analyze a component module =>
    have hmade := Analyzer.analyzeTelling_of_tellAll
      (t := (⟨s.dependencies module, s.sink⟩ : Told σ)) h
    simp only [step, hmade]
    rfl
  | clear => cases h; rfl

/-- **The dependencies and the sink of a session do not meet**, as long as the
sink is told what is reported. -/
theorem run_of_tell {s : Session σ} {events : List Event} {t : σ}
    (h : forM events Event.tell s.sink = .ok () t) :
    run events s = .ok () ⟨events.foldl Event.dependencies s.dependencies, t⟩ := by
  induction events generalizing s with
  | nil => cases h; rfl
  | cons e rest ih =>
    obtain ⟨_, s₁, he, hrest⟩ := bind_eq_ok_iff.mp h
    exact (bind_of_ok (step_of_tell he)).trans (ih hrest)

end Session

theorem Event.forM_tell_concat {s : σ} {events : List Event} {e : Event} {t t' : σ}
    (h : forM events tell s = .ok () t) (he : e.tell t = .ok () t') :
    forM (events ++ [e]) tell s = .ok () t' := by
  rw [List.forM_append, bind_of_ok h]
  exact bind_of_ok he

/-! ## §4 Logs -/

theorem LogLevel.number_le_iff {k l : LogLevel} : k.number ≤ l.number ↔ k.rank ≤ l.rank := by
  unfold LogLevel.number
  omega

namespace Log

/-- The lines that a threshold lets through. -/
def linesOf (threshold : Int) (ds : List Diagnostic) : List LogLine :=
  (ds.filter fun d => threshold ≤ d.severity.logLevel.number).map Diagnostic.logLine

/-- At a named level these are the lines kept from the reports. -/
theorem linesOf_number (level : LogLevel) (ds : List Diagnostic) :
    linesOf level.number ds = logLines level ds := by
  simp only [linesOf, logLines, LogLevel.number_le_iff]

theorem linesOf_cons (threshold : Int) (d : Diagnostic) (ds : List Diagnostic) :
    linesOf threshold (d :: ds) = linesOf threshold [d] ++ linesOf threshold ds := by
  rw [linesOf, linesOf, linesOf, ← List.map_append, ← List.filter_append,
    List.singleton_append]

/-- A log of a threshold can be told a report: its message can be written, or
it is a verbose one that the log does not look at. -/
def CanBeTold (threshold : Int) (d : Diagnostic) : Prop :=
  d.isShowable = true ∨ d.severity = .verbose ∧ LogLevel.debug.number < threshold

variable {l : Log} {d : Diagnostic}

theorem write_logLine (l : Log) (d : Diagnostic) :
    l.write d.logLine = { l with lines := l.lines ++ linesOf l.threshold [d] } := by
  rw [write, isEnabledFor, linesOf]
  by_cases h : l.threshold ≤ d.severity.logLevel.number <;> simp [h, Diagnostic.logLine]

/-- A report whose line is made whatever the threshold. -/
theorem report_of_isShowable (h : d.isShowable = true) (level : LogLevel) (hasFailure : Bool) :
    report level hasFailure d.code d.context l =
      .ok () (l.write ⟨level, d.message, hasFailure⟩) := by
  rw [report, d.format_eq, if_pos h]
  rfl

theorem report_of_not_isShowable (h : ¬ d.isShowable = true) (level : LogLevel)
    (hasFailure : Bool) : report level hasFailure d.code d.context l = .error .tooManyDigits l := by
  rw [report, d.format_eq, if_neg h]
  rfl

/-- A verbose report is looked at only below the threshold of its level. -/
theorem emit_verbose (l : Log) (code : DiagnosticCode) (context : Context) :
    emit ⟨.verbose, code, context⟩ l =
      if LogLevel.debug.number < l.threshold then .ok () l
      else report .debug false code context l := by
  have hemit : emit ⟨.verbose, code, context⟩ l =
      (if l.isEnabledFor .debug = true then report .debug false code context
        else pure ()) l := rfl
  rw [hemit]
  by_cases h : LogLevel.debug.number < l.threshold
  · rw [if_pos h, if_neg (by simp [isEnabledFor, h])]
    rfl
  · rw [if_neg h, if_pos (by simpa [isEnabledFor] using h)]

/-- **A log writes the line of a report** if its threshold lets the level
through, in whichever way it is told. -/
theorem emit_of_canBeTold (h : CanBeTold l.threshold d) :
    emit d l = .ok () { l with lines := l.lines ++ linesOf l.threshold [d] } := by
  rw [← write_logLine]
  obtain ⟨severity, code, context⟩ := d
  cases severity with
  | verbose =>
    rw [emit_verbose]
    split
    · rename_i hlt
      have hsilent : ¬ l.threshold ≤ LogLevel.debug.number := by omega
      simp [write, isEnabledFor, Diagnostic.logLine, Severity.logLevel, hsilent]
    · rename_i hlt
      exact report_of_isShowable (h.resolve_right fun hv => hlt hv.2) .debug false
  | warn => exact report_of_isShowable (h.resolve_right fun hv => nomatch hv.1) .warning false
  | error => exact report_of_isShowable (h.resolve_right fun hv => nomatch hv.1) .error _

/-- Else it fails, and has the lines it had. -/
theorem emit_of_not_canBeTold (h : ¬ CanBeTold l.threshold d) :
    emit d l = .error .tooManyDigits l := by
  rw [CanBeTold, not_or] at h
  obtain ⟨hshow, hseen⟩ := h
  obtain ⟨severity, code, context⟩ := d
  cases severity with
  | verbose =>
    rw [emit_verbose, if_neg fun hlt => hseen ⟨rfl, hlt⟩]
    exact report_of_not_isShowable hshow .debug false
  | warn => exact report_of_not_isShowable hshow .warning false
  | error => exact report_of_not_isShowable hshow .error _

theorem tellAll_eq {ds : List Diagnostic} (h : ∀ d ∈ ds, CanBeTold l.threshold d) :
    tellAll ds l = .ok () { l with lines := l.lines ++ linesOf l.threshold ds } := by
  induction ds generalizing l with
  | nil => simp [linesOf]; rfl
  | cons d rest ih =>
    rw [List.forall_mem_cons] at h
    have hrest := ih (l := { l with lines := l.lines ++ linesOf l.threshold [d] }) h.2
    rw [List.append_assoc, ← linesOf_cons] at hrest
    exact Sink.tellAll_cons_eq_ok_iff.mpr ⟨_, emit_of_canBeTold h.1, hrest⟩

/-- **A log is told reports** just if it can be told each of them. -/
theorem tellAll_eq_ok_iff {ds : List Diagnostic} :
    (∃ l', tellAll ds l = .ok () l') ↔ ∀ d ∈ ds, CanBeTold l.threshold d := by
  constructor
  · rintro ⟨l', h⟩
    induction ds generalizing l with
    | nil => simp
    | cons d rest ih =>
      obtain ⟨l₁, hd, hrest⟩ := Sink.tellAll_cons_eq_ok_iff.mp h
      by_cases hcan : CanBeTold l.threshold d
      · rw [emit_of_canBeTold hcan] at hd
        cases hd
        have hlater := ih (l := { l with lines := l.lines ++ linesOf l.threshold [d] }) hrest
        exact List.forall_mem_cons.mpr ⟨hcan, hlater⟩
      · rw [emit_of_not_canBeTold hcan] at hd
        cases hd
  · exact fun h => ⟨_, tellAll_eq h⟩

/-- Clearing a log does nothing. -/
theorem forM_tell {events : List Event} {l' : Log}
    (h : tellAll (events.flatMap Event.reports) l = .ok () l') :
    forM events Event.tell l = .ok () l' := by
  induction events generalizing l with
  | nil => exact h
  | cons e rest ih =>
    obtain ⟨l₁, he, hrest⟩ := Sink.tellAll_append_eq_ok_iff.mp h
    have hone : e.tell l = .ok () l₁ := by
      cases e with
      | analyze a component module => exact he
      | clear => exact he
    rw [List.forM_cons, bind_of_ok hone]
    exact ih hrest

end Log

/-! ## §5 Recorders -/

/-- The sink that a recorder tells on to is told reports, if there is one. -/
inductive Sink.ToldOn (ds : List Diagnostic) : Option τ → Option τ → Prop where
  | nobody : ToldOn ds none none
  | told {t t' : τ} : tellAll ds t = .ok () t' → ToldOn ds (some t) (some t')

theorem Sink.toldOn_append_iff {ds es : List Diagnostic} {t₁ t₃ : Option τ} :
    ToldOn (ds ++ es) t₁ t₃ ↔ ∃ t₂, ToldOn ds t₁ t₂ ∧ ToldOn es t₂ t₃ := by
  constructor
  · intro h
    cases h with
    | nobody => exact ⟨none, .nobody, .nobody⟩
    | told h =>
      obtain ⟨t, h₁, h₂⟩ := tellAll_append_eq_ok_iff.mp h
      exact ⟨some t, .told h₁, .told h₂⟩
  · rintro ⟨t₂, h₁, h₂⟩
    cases h₁ with
    | nobody =>
      cases h₂
      exact .nobody
    | told h₁ =>
      cases h₂ with
      | told h₂ => exact .told (tellAll_append_eq_ok_iff.mpr ⟨_, h₁, h₂⟩)

namespace Recording

/-- A recorder keeps a report in whichever way it is told. -/
theorem emit_eq (d : Diagnostic) :
    (emit d : EStateM Failure (Recording τ) Unit) = keep d := by
  obtain ⟨severity, code, context⟩ := d
  cases severity <;> rfl

theorem emit_of_toldOn {kept : List Diagnostic} {d : Diagnostic} {t t' : Option τ}
    (h : Sink.ToldOn [d] t t') :
    emit d (⟨kept, t⟩ : Recording τ) = .ok () ⟨kept ++ [d], t'⟩ := by
  rw [emit_eq]
  cases h with
  | nobody => rfl
  | told h => simp only [keep, Sink.tellAll_singleton_eq_ok_iff.mp h]

/-- **A recorder keeps the reports**, and fails only if the sink behind it
does. -/
theorem tellAll_eq {kept ds : List Diagnostic} {t t' : Option τ} (h : Sink.ToldOn ds t t') :
    tellAll ds (⟨kept, t⟩ : Recording τ) = .ok () ⟨kept ++ ds, t'⟩ := by
  induction ds generalizing kept t with
  | nil =>
    rw [List.append_nil]
    cases h with
    | nobody => rfl
    | told h => cases h; rfl
  | cons d rest ih =>
    rw [← List.singleton_append] at h
    obtain ⟨t₁, hd, hrest⟩ := Sink.toldOn_append_iff.mp h
    refine Sink.tellAll_cons_eq_ok_iff.mpr ⟨_, emit_of_toldOn hd, ?_⟩
    rw [ih hrest, List.append_assoc]
    rfl

end Recording

/-- A recorder that lists what it hands on lists all of it. -/
theorem Recorder.tellAll_eq (r : Recorder) (ds : List Diagnostic) :
    tellAll ds r = .ok () ⟨r.records ++ ds, r.forwarded ++ ds⟩ := by
  induction ds generalizing r with
  | nil => simp; rfl
  | cons d rest ih =>
    have hemit : emit d r = .ok () (r.record d) := by
      obtain ⟨severity, code, context⟩ := d
      cases severity <;> rfl
    refine Sink.tellAll_cons_eq_ok_iff.mpr ⟨_, hemit, ?_⟩
    rw [ih, record, List.append_assoc, List.append_assoc, List.singleton_append]

/-! ## §6 What a session leaves behind -/

namespace Event

/-- The event clears the sink. -/
def isClear : Event → Bool
  | .analyze _ _ _ => false
  | .clear => true

/-- The reports that a recorder keeps of a session: what it kept before and
all reports, but only those since it was last cleared. -/
def recordsOf (kept : List Diagnostic) (events : List Event) : List Diagnostic :=
  (if events.any isClear then [] else kept) ++
    (events.rtakeWhile fun e => !e.isClear).flatMap reports

theorem recordsOf_concat (kept : List Diagnostic) (events : List Event) (e : Event) :
    recordsOf kept (events ++ [e]) =
      if e.isClear then [] else recordsOf kept events ++ e.reports := by
  cases e with
  | analyze a component module => simp [recordsOf, isClear]
  | clear => simp [recordsOf, isClear]

/-- **A recorder keeps the reports since it was last cleared** and tells on
all of them. -/
theorem tell_recording {kept : List Diagnostic} {t t' : Option τ} {events : List Event}
    (h : Sink.ToldOn (events.flatMap reports) t t') :
    forM events tell (⟨kept, t⟩ : Recording τ) = .ok () ⟨recordsOf kept events, t'⟩ := by
  induction events using List.reverseRecOn generalizing t' with
  | nil =>
    cases h with
    | nobody => simp [recordsOf]; rfl
    | told h => cases h; simp [recordsOf]; rfl
  | append_singleton before e ih =>
    rw [List.flatMap_append, List.flatMap_singleton] at h
    obtain ⟨t₁, hbefore, he⟩ := Sink.toldOn_append_iff.mp h
    refine forM_tell_concat (ih hbefore) ?_
    rw [recordsOf_concat]
    cases e with
    | analyze a component module => exact Recording.tellAll_eq he
    | clear =>
      cases he with
      | nobody => rfl
      | told he => cases he; rfl

/-- A recorder that lists what it hands on does so too. -/
theorem tell_recorder (r : Recorder) (events : List Event) :
    forM events tell r =
      .ok () ⟨recordsOf r.records events, r.forwarded ++ events.flatMap reports⟩ := by
  induction events using List.reverseRecOn with
  | nil => simp [recordsOf]; rfl
  | append_singleton before e ih =>
    refine forM_tell_concat ih ?_
    rw [List.flatMap_append, List.flatMap_singleton, recordsOf_concat]
    cases e with
    | analyze a component module =>
      exact (Recorder.tellAll_eq _ _).trans (by rw [List.append_assoc]; rfl)
    | clear => simp [reports, isClear, tell]; rfl

end Event

/-- A log can be told what is reported in a session with default rules. -/
theorem Event.canBeTold_of_mem_reports {events : List Event}
    (h : ∀ a c m, Event.analyze a c m ∈ events → a.UsesDefaultRules) {threshold : Int}
    {d : Diagnostic} (hd : d ∈ events.flatMap Event.reports) : Log.CanBeTold threshold d := by
  obtain ⟨e, he, hd⟩ := List.mem_flatMap.mp hd
  cases e with
  | analyze a c m => exact .inl ((h a c m he).isShowable hd)
  | clear => cases hd

/-- **The sink only listens**, as long as it can be told. A session of
analyses, of any components over any pools and rules, leaves the dependencies
of analyses that list their reports, whatever the sink, if it is told what is
reported. A log can be told just reports that can be written and verbose ones
below its threshold; it then has a line for each report whose level reaches
its threshold, in the order in which the reports were made and with their
messages. A recorder by itself can be told anything. It has the reports since
it was last cleared. What it tells on to was told all of them, as if it had
never been cleared: a log has the lines it would have had on its own, another
recorder has the whole sequence, and so does the list of a recorder that
keeps one. With default rules and rules that fail all reports can be written,
so that all of these leave the same. And where a sink fails to be told what
rules report, the additions told before are made and no others, and the
failure is told as that of the analysis. -/
theorem sink_only_listens (events : List Event) (all : String → DependencySet) :
    let made := events.flatMap Event.reports
    let left := events.foldl Event.dependencies all
    let written (threshold : Int) := (made.filter fun d =>
      threshold ≤ d.severity.logLevel.number).map Diagnostic.logLine
    (∀ {σ : Type} [Sink σ] (s t : σ), forM events Event.tell s = .ok () t →
      Session.run events ⟨all, s⟩ = .ok () ⟨left, t⟩) ∧
    (∀ l : Log, ((∃ l', tellAll made l = .ok () l') ↔ ∀ d ∈ made, Log.CanBeTold l.threshold d) ∧
      ((∀ d ∈ made, Log.CanBeTold l.threshold d) → Session.run events ⟨all, l⟩ =
        .ok () ⟨left, { l with lines := l.lines ++ written l.threshold }⟩)) ∧
    (∀ level : LogLevel, written level.number = logLines level made) ∧
    (∀ {τ : Type} [Sink τ] (kept : List Diagnostic),
      Session.run events ⟨all, (⟨kept, none⟩ : Recording τ)⟩ =
        .ok () ⟨left, ⟨Event.recordsOf kept events, none⟩⟩) ∧
    (∀ {τ : Type} [Sink τ] (kept : List Diagnostic) (t t' : τ), tellAll made t = .ok () t' →
      Session.run events ⟨all, (⟨kept, some t⟩ : Recording τ)⟩ =
        .ok () ⟨left, ⟨Event.recordsOf kept events, some t'⟩⟩) ∧
    (∀ (kept : List Diagnostic) (l : Log), (∀ d ∈ made, Log.CanBeTold l.threshold d) →
      Session.run events ⟨all, (⟨kept, some l⟩ : Recording Log)⟩ =
        .ok () ⟨left, ⟨Event.recordsOf kept events,
          some { l with lines := l.lines ++ written l.threshold }⟩⟩) ∧
    (∀ {τ : Type} [Sink τ] (kept held : List Diagnostic) (t t' : Option τ), Sink.ToldOn made t t' →
      Session.run events ⟨all, (⟨kept, some ⟨held, t⟩⟩ : Recording (Recording τ))⟩ =
        .ok () ⟨left, ⟨Event.recordsOf kept events, some ⟨held ++ made, t'⟩⟩⟩) ∧
    (∀ r : Recorder, Session.run events ⟨all, r⟩ =
      .ok () ⟨left, ⟨Event.recordsOf r.records events, r.forwarded ++ made⟩⟩) ∧
    ((∀ a c m, Event.analyze a c m ∈ events → a.UsesDefaultRules) →
      ∀ threshold, ∀ d ∈ made, Log.CanBeTold threshold d) ∧
    ∀ {σ : Type} [Sink σ] (a : Analyzer) (c : String) (t : Told σ) (m : Manifest)
      (rs : List Derivation) (before after : List Action) (x : Action) (s s' : σ) (f : Failure),
      a.pool.load c = .ok (.found m) → deriveAll a.rules m = .ok rs →
        rs.flatMap (Derivation.actions (some c)) = before ++ x :: after →
          tellAll (before.map Prod.fst) t.sink = .ok () s → emit x.1 s = .error f s' →
            a.analyzeTelling c t = Told.withSink (emit (failedReport c f))
              ⟨t.dependencies.addAll (before.filterMap Prod.snd), s'⟩ := by
  intro made left written
  have hlog (l : Log) (hl : ∀ d ∈ made, Log.CanBeTold l.threshold d) :
      tellAll made l = .ok () { l with lines := l.lines ++ written l.threshold } :=
    Log.tellAll_eq hl
  refine ⟨fun s t h => Session.run_of_tell h, fun l => ⟨Log.tellAll_eq_ok_iff, fun hl => ?_⟩,
    fun level => Log.linesOf_number level made, fun kept => ?_, fun kept t t' h => ?_,
    fun kept l hl => ?_, fun kept held t t' h => ?_, fun r => ?_,
    fun hrules threshold d hd => Event.canBeTold_of_mem_reports hrules hd,
    fun a c t m rs before after x s s' f hload hderive hactions hbefore hx =>
      Analyzer.analyzeTelling_of_refused hload hderive hactions hbefore hx⟩
  · exact Session.run_of_tell (Log.forM_tell (hlog l hl))
  · exact Session.run_of_tell (Event.tell_recording .nobody)
  · exact Session.run_of_tell (Event.tell_recording (.told h))
  · exact Session.run_of_tell (Event.tell_recording (.told (hlog l hl)))
  · exact Session.run_of_tell (Event.tell_recording (.told (Recording.tellAll_eq h)))
  · exact Session.run_of_tell (Event.tell_recorder r events)

/-- A rule reports an integer with 4301 digits, between a module of its own and
one of the next rule. With a recorder both modules are added; a log stops at
the report, and the analysis with it, though the log does not even keep reports
of that level. -/
theorem sink_stops_at_unwritable_report :
    let long : Diagnostic := ⟨.warn, .unknownODataVersion,
      [("odata_version", .value (.int Json.leastUnwritable)), ("data_source", .str "d"),
        ("model", .str "m")]⟩
    let first : Rule := fun _ => .ok
      { rule := "first", dependencies := [{ module := "a.js" }], diagnostics := [long] }
    let second : Rule := fun _ => .ok
      { rule := "second", dependencies := [{ module := "b.js" }] }
    let a : Analyzer :=
      { pool := .ofTable [("my/manifest.json", .text "\x7b\x7d")], rules := [first, second] }
    let events := [Event.analyze a "my/Component.js" "m"]
    let log : Log := { threshold := LogLevel.error.number }
    let recorded := Session.leaves events ⟨fun _ => .empty, ({} : Recorder)⟩
    let logged := Session.leaves events ⟨fun _ => .empty, log⟩
    (recorded.dependencies "m").entries = [("a.js", .required), ("b.js", .required)] ∧
      (logged.dependencies "m").entries = [("a.js", .required)] ∧
      logged.sink.lines.map (·.message) =
        ["An error occurred while analyzing component 'my/Component.js' (ignored): " ++
          "Exceeds the limit (4300 digits) for integer string conversion; " ++
          "use sys.set_int_max_str_digits() to increase the limit"] := by
  decide +kernel

/-- An array for a manifest, then no manifest, with the recorder cleared in
between: the log behind it has the line of the first. -/
example :
    let a : Analyzer := { pool := .ofTable [("bad/manifest.json", .text "[]")] }
    let events := [.analyze a "bad/Component.js" "m", .clear, .analyze a "none/Component.js" "m"]
    let log : Log := { threshold := LogLevel.warning.number }
    let s := Session.leaves events ⟨fun _ => .empty, (⟨[], some log⟩ : Recording Log)⟩
    s.sink.records.map (·.code) = [.manifestNotFound] ∧
      s.sink.forwardTo.map (fun l => l.lines.map (·.level)) = some [.error] := by
  decide +kernel

end ManifestDeps
