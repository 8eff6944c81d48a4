/-
ManifestDeps.Proofs.MessageTheorems — every message is what its template
expands to.

A template is a text with names in braces. `Expands` says what it expands to:
one pass over the text, in which each name in braces is replaced by what is
bound to it and all else is copied. What is put in for a name is written and
not read again, so braces in it mean nothing. There is at most one expansion
(`Expands.unique`), and the message of a report is the one of its template as
soon as its context has all names (`Diagnostic.expands_message`). Otherwise,
and only then, the message is the code with the whole context behind it
(`Diagnostic.message_eq_fallback_iff`).

That the contexts have all names is a fact about the places where reports are
made. There are four of them in an analysis, and seven kinds of warnings in the
rules; putting a component in front of a context takes no name away
(`Diagnostic.fillsTemplate_forComponent`). What holds of the reports of one
analysis is then carried to all ways of running several.
-/
import ManifestDeps.Proofs.JournalTheorems
import ManifestDeps.Proofs.SinkTheorems
import ManifestDeps.Proofs.TaskBatchTheorems

namespace ManifestDeps

/-! ## §1 Expanding a text -/

/-- Put texts in place of the names in braces, in one pass. -/
inductive Expands (value : String → Option String) : List Char → List Char → Prop where
  | done : Expands value [] []
  | char {c : Char} {rest out : List Char} : c ≠ '{' → c ≠ '}' → Expands value rest out →
      Expands value (c :: rest) (c :: out)
  | field {name rest out : List Char} {s : String} : '}' ∉ name →
      value (String.ofList name) = some s → Expands value rest out →
      Expands value ('{' :: (name ++ '}' :: rest)) (s.toList ++ out)

namespace Expands

variable {value : String → Option String} {text rest out out' : List Char}

/-- A name ends at the first closing brace. -/
theorem name_unique {name name' rest' : List Char} (h : '}' ∉ name) (h' : '}' ∉ name')
    (htext : name ++ '}' :: rest = name' ++ '}' :: rest') : name = name' ∧ rest = rest' := by
  induction name generalizing name' with
  | nil =>
    cases name' with
    | nil => exact ⟨rfl, (List.cons.inj htext).2⟩
    | cons c name' => exact absurd (List.cons.inj htext).1 (List.ne_of_not_mem_cons h')
  | cons c name ih =>
    cases name' with
    | nil => exact absurd (List.cons.inj htext).1.symm (List.ne_of_not_mem_cons h)
    | cons d name' =>
      obtain ⟨rfl, hmore⟩ := List.cons.inj htext
      have hsame := ih (List.not_mem_of_not_mem_cons h) (List.not_mem_of_not_mem_cons h') hmore
      exact ⟨by rw [hsame.1], hsame.2⟩

/-- A text has one expansion at most. -/
theorem unique (h : Expands value text out) (h' : Expands value text out') : out = out' := by
  induction h generalizing out' with
  | done => cases h'; rfl
  | char hopen _ _ ih =>
    cases h' with
    | char _ _ hrest => rw [ih hrest]
    | field => exact absurd rfl hopen
  | @field name rest out s hname hvalue _ ih =>
    generalize htext : '{' :: (name ++ '}' :: rest) = text at h'
    cases h' with
    | done => cases htext
    | char hopen => exact absurd (List.cons.inj htext).1.symm hopen
    | field hname' hvalue' hrest' =>
      obtain ⟨rfl, rfl⟩ := name_unique hname hname' (List.cons.inj htext).2
      rw [hvalue] at hvalue'
      cases hvalue'
      rw [ih hrest']

/-- A text without braces is copied. -/
theorem append (hopen : '{' ∉ text) (hclose : '}' ∉ text) (h : Expands value rest out) :
    Expands value (text ++ rest) (text ++ out) := by
  induction text with
  | nil => exact h
  | cons c text ih =>
    obtain ⟨ho, hopen⟩ := List.ne_and_not_mem_of_not_mem_cons hopen
    obtain ⟨hc, hclose⟩ := List.ne_and_not_mem_of_not_mem_cons hclose
    exact .char ho.symm hc.symm (ih hopen hclose)

/-- What stands in front of all names stays in front. -/
theorem head?_eq {c : Char} (h : Expands value (c :: rest) out) (hc : c ≠ '{') :
    out.head? = some c := by
  cases h with
  | char => rfl
  | field => exact absurd rfl hc

end Expands

/-! ## §2 Templates -/

namespace Piece

/-- How a piece is written in the text of a template. -/
def spelling : Piece → List Char
  | text s => s.toList
  | field name => '{' :: (name.toList ++ ['}'])

/-- The text or the name of a piece. -/
def content : Piece → String
  | text s | field s => s

/-- A piece can be told from its neighbours. -/
def IsPlain (p : Piece) : Prop :=
  '{' ∉ p.content.toList ∧ '}' ∉ p.content.toList

instance : DecidablePred IsPlain :=
  fun p => inferInstanceAs (Decidable ('{' ∉ p.content.toList ∧ '}' ∉ p.content.toList))

/-- The name of a field. -/
def name? : Piece → Option String
  | text _ => none
  | field name => some name

end Piece

/-- The text of the detail under a name. -/
def Context.text? (c : Context) (name : String) : Option String :=
  (c.lookup name).map Detail.text

/-- The context has the names of all fields. -/
def Context.fills (c : Context) (ps : List Piece) : Bool :=
  (ps.filterMap Piece.name?).all fun name => (c.lookup name).isSome

/-- What pieces come to, with nothing for a field that is missing. -/
def Context.expand (c : Context) (ps : List Piece) : String :=
  String.join (ps.map fun p => (p.fill? c).getD "")

section

variable {c : Context} {ps : List Piece}

theorem Context.fills_cons {p : Piece} :
    c.fills (p :: ps) = true ↔ (p.fill? c).isSome ∧ c.fills ps = true := by
  cases p with
  | text s => simp [fills, Piece.name?, Piece.fill?]
  | field name => simp [fills, Piece.name?, Piece.fill?]

theorem Context.fills_append {qs : List Piece} :
    c.fills (ps ++ qs) = true ↔ c.fills ps = true ∧ c.fills qs = true := by
  simp [fills]

theorem Context.exists_lookup_of_fills {name : String} (h : c.fills ps = true)
    (hname : .field name ∈ ps) : ∃ v, c.lookup name = some v := by
  have hmem : name ∈ ps.filterMap Piece.name? := List.mem_filterMap.mpr ⟨_, hname, rfl⟩
  exact Option.isSome_iff_exists.mp (List.all_eq_true.mp h name hmem)

/-- Filling all pieces succeeds when each of them has its name. -/
theorem mapM_fill?_of_fills (h : c.fills ps = true) :
    ps.mapM (Piece.fill? c) = some (ps.map fun p => (p.fill? c).getD "") := by
  induction ps with
  | nil => rfl
  | cons p ps ih =>
    obtain ⟨hp, hps⟩ := Context.fills_cons.mp h
    obtain ⟨s, hs⟩ := Option.isSome_iff_exists.mp hp
    rw [List.mapM_cons, hs, ih hps, List.map_cons, hs]
    rfl

theorem mapM_fill?_of_not_fills (h : ¬ c.fills ps = true) : ps.mapM (Piece.fill? c) = none := by
  induction ps with
  | nil => exact absurd rfl h
  | cons p ps ih =>
    rw [List.mapM_cons]
    cases hp : p.fill? c with
    | none => rfl
    | some s =>
      rw [ih fun hps => h (Context.fills_cons.mpr ⟨by rw [hp]; rfl, hps⟩)]
      rfl

theorem Context.expand_append (c : Context) (ps qs : List Piece) :
    c.expand (ps ++ qs) = c.expand ps ++ c.expand qs := by
  rw [expand, List.map_append, String.join_append]
  rfl

/-- **Plain pieces, written as a text, expand to their texts.** -/
theorem Context.expands_spelling (hplain : ∀ p ∈ ps, p.IsPlain) (h : c.fills ps = true) :
    Expands c.text? (ps.flatMap Piece.spelling) (c.expand ps).toList := by
  induction ps with
  | nil => exact .done
  | cons p ps ih =>
    obtain ⟨⟨hopen, hclose⟩, hplain⟩ := List.forall_mem_cons.mp hplain
    obtain ⟨hp, hps⟩ := fills_cons.mp h
    have hrest := ih hplain hps
    rw [List.flatMap_cons, ← List.singleton_append, expand_append, String.toList_append]
    cases p with
    | text s =>
      have hs : c.expand [.text s] = s := by simp [expand, Piece.fill?]
      rw [hs]
      exact hrest.append hopen hclose
    | field name =>
      obtain ⟨s, hs⟩ := Option.isSome_iff_exists.mp hp
      have hname : c.expand [.field name] = s := by simp [expand, hs]
      rw [hname, Piece.spelling, List.cons_append, List.append_assoc, List.singleton_append]
      refine .field hclose ?_ hrest
      rw [String.ofList_toList]
      exact hs

end

namespace DiagnosticCode

/-- The text of a template, with the names of fields in braces. -/
def pattern (code : DiagnosticCode) : List Char :=
  code.template.flatMap Piece.spelling

theorem isPlain_of_mem_template (code : DiagnosticCode) : ∀ p ∈ code.template, p.IsPlain := by
  cases code <;> decide +kernel

/-- A template and the word for its code begin with different letters. -/
theorem exists_pattern_eq_cons (code : DiagnosticCode) :
    ∃ x rest y more, code.pattern = x :: rest ∧ code.name.toList = y :: more ∧ x ≠ '{' ∧
      x ≠ y := by
  have h : (code.pattern.head?.any fun x => code.name.toList.head?.any fun y =>
      x != '{' && x != y) = true := by
    cases code <;> decide +kernel
  cases hpattern : code.pattern with
  | nil =>
    rw [hpattern] at h
    cases h
  | cons x rest =>
    cases hname : code.name.toList with
    | nil =>
      rw [hpattern, hname] at h
      cases h
    | cons y more => exact ⟨x, rest, y, more, rfl, rfl, by simpa [hpattern, hname] using h⟩

end DiagnosticCode

namespace Diagnostic

variable {d : Diagnostic}

/-- The context of the report has the names of all fields of its template. -/
def fillsTemplate (d : Diagnostic) : Bool :=
  d.context.fills d.code.template

theorem message_eq_expand (h : d.fillsTemplate = true) :
    d.message = d.context.expand d.code.template := by
  rw [message, DiagnosticCode.message, mapM_fill?_of_fills h]
  rfl

/-- **The message is what the template expands to.** -/
theorem expands_message (h : d.fillsTemplate = true) :
    Expands d.context.text? d.code.pattern d.message.toList := by
  rw [message_eq_expand h]
  exact Context.expands_spelling d.code.isPlain_of_mem_template h

/-- A message is made of the code and the context just when a name is
missing. -/
theorem message_eq_fallback_iff :
    d.message = d.code.name ++ " " ++ d.context.literal ↔ ¬ d.fillsTemplate = true := by
  constructor
  · intro hmessage h
    obtain ⟨x, rest, y, more, hpattern, hname, hx, hne⟩ := d.code.exists_pattern_eq_cons
    have hexpands := expands_message h
    rw [hpattern] at hexpands
    have hhead := hexpands.head?_eq hx
    rw [hmessage, String.toList_append, String.toList_append, hname] at hhead
    exact hne (Option.some.inj hhead).symm
  · intro h
    rw [message, DiagnosticCode.message, mapM_fill?_of_not_fills h]

/-- The message of a report follows the template of its code. -/
structure FollowsTemplate (d : Diagnostic) : Prop where
  /-- The context has the name of every field. -/
  named : ∀ name, .field name ∈ d.code.template → ∃ v, d.context.lookup name = some v
  /-- The message is the one text that the template expands to. -/
  expands : ∀ out, Expands d.context.text? d.code.pattern out ↔ out = d.message.toList
  /-- The text of a detail stands where its name stood, between what the rest of
  the template expands to. -/
  verbatim : ∀ before name after, d.code.template = before ++ .field name :: after →
    ∃ v left right, d.context.lookup name = some v ∧
      Expands d.context.text? (before.flatMap Piece.spelling) left ∧
      Expands d.context.text? (after.flatMap Piece.spelling) right ∧
      d.message.toList = left ++ v.text.toList ++ right
  /-- The message is not made of the code and the context. -/
  notFallback : d.message ≠ d.code.name ++ " " ++ d.context.literal

theorem followsTemplate_of_fillsTemplate (h : d.fillsTemplate = true) : d.FollowsTemplate where
  named := fun name hname => Context.exists_lookup_of_fills h hname
  expands := fun out => by
    refine ⟨fun hout => hout.unique (expands_message h), ?_⟩
    rintro rfl
    exact expands_message h
  verbatim := by
    intro before name after htemplate
    have hplain := d.code.isPlain_of_mem_template
    have hfills : d.context.fills d.code.template = true := h
    have hname : .field name ∈ d.code.template := by
      rw [htemplate]
      exact List.mem_append_right _ List.mem_cons_self
    obtain ⟨v, hv⟩ := Context.exists_lookup_of_fills hfills hname
    rw [htemplate] at hplain hfills
    obtain ⟨hbefore, hafter⟩ := Context.fills_append.mp hfills
    refine ⟨v, _, _, hv,
      Context.expands_spelling (fun p hp => hplain p (List.mem_append_left _ hp)) hbefore,
      Context.expands_spelling
        (fun p hp => hplain p (List.mem_append_right _ (List.mem_cons_of_mem _ hp)))
        (Context.fills_cons.mp hafter).2, ?_⟩
    have hfield : d.context.expand [.field name] = v.text := by
      simp [Context.expand, Piece.fill?, hv]
    rw [message_eq_expand h, htemplate, ← List.singleton_append, Context.expand_append,
      Context.expand_append, hfield]
    simp
  notFallback := fun hmessage => message_eq_fallback_iff.mp hmessage h

/-! ## §3 Where reports are made -/

/-- Other names are found as before when a component is put in front. -/
theorem lookup_forComponent_of_ne {name : String} (hname : name ≠ "component") (c : String) :
    (d.forComponent c).context.lookup name = d.context.lookup name := by
  rw [forComponent, Table.lookup_cons_eq_ite, if_neg hname]
  induction d.context with
  | nil => rfl
  | cons e rest ih =>
    obtain ⟨k, v⟩ := e
    by_cases hk : k = "component"
    · subst hk
      rw [List.filter_cons_of_neg (by simp), ih, Table.lookup_cons_eq_ite, if_neg hname]
    · rw [List.filter_cons_of_pos (by simpa using hk), Table.lookup_cons_eq_ite,
        Table.lookup_cons_eq_ite, ih]

/-- **A component in front takes no name away.** -/
theorem fillsTemplate_forComponent (h : d.fillsTemplate = true) (c : String) :
    (d.forComponent c).fillsTemplate = true := by
  rw [fillsTemplate, Context.fills, List.all_eq_true] at h ⊢
  intro name hname
  by_cases hcomponent : name = "component"
  · subst hcomponent
    rw [lookup_component_forComponent]
    rfl
  · rw [lookup_forComponent_of_ne hcomponent]
    exact h name hname

end Diagnostic

/-- The warnings of the default rules have all names. -/
theorem RuleWarning.fillsTemplate {m : Manifest} {w : Diagnostic} (h : RuleWarning m w) :
    w.fillsTemplate = true := by
  cases h <;> rfl

theorem Derivation.fillsTemplate_of_mem_reports {component : Option String} {x : Derivation}
    (hx : ∀ w ∈ x.diagnostics, w.fillsTemplate = true) {r : Diagnostic}
    (hr : r ∈ x.reports component) : r.fillsTemplate = true := by
  rcases List.mem_append.mp hr with hr | hr
  · obtain ⟨y, -, rfl⟩ := List.mem_map.mp hr
    rfl
  · obtain ⟨w, hw, rfl⟩ := List.mem_map.mp hr
    cases component with
    | none => exact hx w hw
    | some c => exact Diagnostic.fillsTemplate_forComponent (hx w hw) c

/-- What loading reports has all names. -/
theorem Pool.fillsTemplate_of_skipped (pool : Pool) {c : String} {r : Diagnostic}
    (h : pool.load c = .ok (.skipped r)) : r.fillsTemplate = true := by
  rw [Pool.load] at h
  split at h
  · cases h
  · simp only at h
    split at h
    · cases h
      rfl
    · cases h
    · split at h
      · cases h
      · split at h
        · cases h
        · cases h
          rfl
        · cases h

namespace Analyzer

variable {a : Analyzer}

/-- What the rules themselves report has all names. -/
def FillsTemplates (a : Analyzer) : Prop :=
  a.RulesReport fun w => w.fillsTemplate = true

theorem UsesDefaultRules.fillsTemplates (h : a.UsesDefaultRules) : a.FillsTemplates :=
  h.rulesReport fun _ _ hw => hw.fillsTemplate

/-- Reports of what the rules derive, for a component or for none. -/
theorem FillsTemplates.of_derive (h : a.FillsTemplates) {m : Manifest}
    {component : Option String} {d : DependencySet} {o : Outcome}
    (ho : m.derive a.rules component d = .ok o) {r : Diagnostic} (hr : r ∈ o.reports) :
    r.fillsTemplate = true := by
  rw [Manifest.derive] at ho
  cases hderive : deriveAll a.rules m with
  | error f =>
    rw [hderive] at ho
    cases ho
  | ok rs =>
    rw [hderive] at ho
    cases ho
    obtain ⟨x, hx, hr⟩ := List.mem_flatMap.mp hr
    obtain ⟨rule, hrule, hok⟩ := exists_rule_of_mem (deriveAll_eq_ok_iff.mp hderive) hx
    exact Derivation.fillsTemplate_of_mem_reports (h rule hrule m x hok) hr

/-- **One analysis**: each course reports with all names. -/
theorem FillsTemplates.of_analyze (h : a.FillsTemplates) {c : String} {d : DependencySet}
    {r : Diagnostic} (hr : r ∈ (a.analyze c d).reports) : r.fillsTemplate = true := by
  rw [analyze] at hr
  split at hr
  · rw [List.mem_singleton.mp hr]
    rfl
  · cases hr
  · rename_i report hload
    rw [List.mem_singleton.mp hr]
    exact a.pool.fillsTemplate_of_skipped hload
  · split at hr
    · rw [List.mem_singleton.mp hr]
      rfl
    · rename_i ho
      exact h.of_derive ho hr

theorem FillsTemplates.of_reports (h : a.FillsTemplates) {c : String} {r : Diagnostic}
    (hr : r ∈ a.reports c) : r.fillsTemplate = true :=
  h.of_analyze hr

/-- What is kept of several analyses has all names. -/
theorem FillsTemplates.of_records (h : a.FillsTemplates) {cs : List String}
    {records : List Diagnostic} (hrecords : a.Records cs records) {r : Diagnostic}
    (hr : r ∈ records) : r.fillsTemplate = true := by
  obtain ⟨order, -, rfl⟩ := hrecords
  obtain ⟨c, -, hr⟩ := List.mem_flatMap.mp hr
  exact h.of_reports hr

/-! ## §4 Runs -/

/-- **Run lemma** for calls, one after the other. -/
theorem Runs.fillsTemplate_of_mem {calls : List Call} {d : DependencySet} {o : Outcome}
    (hrun : a.Runs calls d o) (h : a.FillsTemplates) {r : Diagnostic} (hr : r ∈ o.reports) :
    r.fillsTemplate = true := by
  induction hrun with
  | nil => cases hr
  | one _ ih =>
    rcases List.mem_append.mp hr with hr | hr
    · exact h.of_analyze hr
    · exact ih hr
  | batch hends _ ih =>
    rcases List.mem_append.mp hr with hr | hr
    · exact h.of_records hends.records hr
    · exact ih hr

end Analyzer

/-- At every moment of a batch, what was reported has all names. -/
theorem Batch.fillsTemplate_of_reaches {a : Analyzer} {k : Option Int} {cs : List String}
    {d : DependencySet} {b : Batch} (hreaches : Batch.Reaches a k (Batch.start cs d) b)
    (h : a.FillsTemplates) {r : Diagnostic} (hr : r ∈ b.outcome.reports) :
    r.fillsTemplate = true := by
  obtain ⟨settled, hin⟩ := Batch.exists_inOrder_of_reaches hreaches
  rw [hin.outcome_eq, Analyzer.analyzeAll_reports] at hr
  exact h.of_records ⟨settled, .refl _, rfl⟩ hr

/-- What is reported in a session has all names. -/
theorem Event.fillsTemplate_of_mem_reports {events : List Event}
    (h : ∀ a c m, Event.analyze a c m ∈ events → a.UsesDefaultRules) {r : Diagnostic}
    (hr : r ∈ events.flatMap Event.reports) : r.fillsTemplate = true := by
  obtain ⟨e, he, hr⟩ := List.mem_flatMap.mp hr
  cases e with
  | analyze a c m => exact (h a c m he).fillsTemplates.of_reports hr
  | clear => cases hr

/-- **Messages follow their templates.** An analyzer uses default rules and
rules that fail, in any order and number, on any pool. Whatever it is called
for, one after the other or side by side under any limit, at every moment each
report that was made has the names of all fields of its template in its context.
Its message is the one text that the template expands to in one pass: the text
of each detail stands where its name stood, braces and names in it included, and
the message is never the code with the context behind it. The same is true of
the reports of loading alone, of those of the rules alone, for a component or
for none, and of what a sink is told in a session. -/
theorem messages_follow_templates {a : Analyzer} (h : a.UsesDefaultRules) :
    (∀ calls d o, a.Runs calls d o → ∀ r ∈ o.reports, r.FollowsTemplate) ∧
      (∀ k cs d b, Batch.Reaches a k (.start cs d) b →
        ∀ r ∈ b.outcome.reports, r.FollowsTemplate) ∧
      (∀ k cs b, TaskBatch.Reaches a k (.start cs) b → ∀ r ∈ b.reports, r.FollowsTemplate) ∧
      (∀ c r, a.pool.load c = .ok (.skipped r) → r.FollowsTemplate) ∧
      (∀ (m : Manifest) component d o, m.derive a.rules component d = .ok o →
        ∀ r ∈ o.reports, r.FollowsTemplate) ∧
      ∀ (events : List Event) (all : String → DependencySet),
        (∀ b c m, Event.analyze b c m ∈ events → b.UsesDefaultRules) →
          (∃ s, Session.run events ⟨all, ({} : Recorder)⟩ = .ok () s ∧
            ∀ r ∈ s.sink.forwarded, r.FollowsTemplate) ∧
          ∀ threshold, ∃ s, Session.run events ⟨all, ({ threshold } : Log)⟩ = .ok () s ∧
            ∀ line ∈ s.sink.lines,
              ∃ r : Diagnostic, r.FollowsTemplate ∧ line.message = r.message := by
  have hfills := h.fillsTemplates
  refine ⟨fun calls d o hruns r hr => ?_, fun k cs d b hreaches r hr => ?_,
    fun k cs b hreaches r hr => ?_, fun c r hload => ?_, fun m component d o ho r hr => ?_,
    fun events all hevents => ⟨⟨_, Session.run_of_tell (Event.tell_recorder _ _), fun r hr => ?_⟩,
      fun threshold => ⟨_, Session.run_of_tell (Log.forM_tell (Log.tellAll_eq fun r hr =>
        Event.canBeTold_of_mem_reports hevents hr)), fun line hline => ?_⟩⟩⟩
  · exact Diagnostic.followsTemplate_of_fillsTemplate (hruns.fillsTemplate_of_mem hfills hr)
  · exact Diagnostic.followsTemplate_of_fillsTemplate
      (Batch.fillsTemplate_of_reaches hreaches hfills hr)
  · exact Diagnostic.followsTemplate_of_fillsTemplate
      (hfills.of_records (TaskBatch.invariant_of_reaches hreaches).records hr)
  · exact Diagnostic.followsTemplate_of_fillsTemplate (a.pool.fillsTemplate_of_skipped hload)
  · exact Diagnostic.followsTemplate_of_fillsTemplate (hfills.of_derive ho hr)
  · rw [List.nil_append] at hr
    exact Diagnostic.followsTemplate_of_fillsTemplate
      (Event.fillsTemplate_of_mem_reports hevents hr)
  · rw [List.nil_append] at hline
    obtain ⟨r, hr, rfl⟩ := List.mem_map.mp hline
    have hmade := (List.mem_filter.mp hr).1
    exact ⟨r, Diagnostic.followsTemplate_of_fillsTemplate
      (Event.fillsTemplate_of_mem_reports hevents hmade), rfl⟩

/-- Details that look like fields: a component whose data source has such a
version, one without a descriptor, and the first again with a rule that fails. -/
theorem messages_follow_templates_of_braces :
    let sources := "\x7b\"\x7bmodel\x7d\":\x7b\"type\":\"OData\",\"settings\":" ++
      "\x7b\"odataVersion\":\"\x7bdata_source\x7d\"\x7d\x7d\x7d"
    let models := "\x7b\"\x7b\x7d\":\x7b\"dataSource\":\"\x7bmodel\x7d\"\x7d\x7d"
    let files : Table Content := [("\x7bmodel\x7d/manifest.json", .text <|
      "\x7b\"sap.app\":\x7b\"dataSources\":" ++ sources ++
      "\x7d,\"sap.ui5\":\x7b\"models\":" ++ models ++ "\x7d\x7d")]
    let a : Analyzer := { pool := .ofTable files }
    let failing : Rule := fun _ => .error (.rule "no \x7bcomponent\x7d")
    let b : Analyzer := { a with rules := failing :: defaultRules }
    let first := "\x7bmodel\x7d/Component.js"
    let made := (a.analyze first .empty).reports ++
      (a.analyze "\x7b/Component.js" .empty).reports ++ (b.analyze first .empty).reports
    a.UsesDefaultRules ∧ b.UsesDefaultRules ∧ (∀ r ∈ made, r.FollowsTemplate) ∧
      made.map (·.message) =
        ["Provided OData version '\x7bdata_source\x7d' in dataSource '\x7bmodel\x7d' " ++
            "for model '\x7b\x7d' is unknown",
          "No manifest found for '\x7b/Component.js', skipping analysis",
          "An error occurred while analyzing component '\x7bmodel\x7d/Component.js' " ++
            "(ignored): no \x7bcomponent\x7d"] := by
  intro sources models files a failing b first made
  have ha : a.UsesDefaultRules := fun rule hrule => .inl hrule
  have hb : b.UsesDefaultRules := by
    intro rule hrule
    rcases List.mem_cons.mp hrule with rfl | hrule
    · exact .inr fun m => ⟨_, rfl⟩
    · exact .inl hrule
  have hone (x : Analyzer) (hx : x.UsesDefaultRules) (c : String) (r : Diagnostic)
      (hr : r ∈ (x.analyze c .empty).reports) : r.FollowsTemplate :=
    (messages_follow_templates hx).1 [.one c] .empty _ (.one .nil) r (List.mem_append_left _ hr)
  refine ⟨ha, hb, fun r hr => ?_, by decide +kernel⟩
  rcases List.mem_append.mp hr with hr | hr
  · rcases List.mem_append.mp hr with hr | hr
    · exact hone a ha _ r hr
    · exact hone a ha _ r hr
  · exact hone b hb _ r hr

end ManifestDeps
