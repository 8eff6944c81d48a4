/-
ManifestDeps.Proofs.PrintingTheorems — when a report is printed to its end.

JSON and YAML take every text. A table takes a text only when it can be shown
as markup, and the names of components, the paths of modules and the messages
below a table are handed on as they are, although they come from directories
and manifests. So a table is printed to its end exactly when all its texts
are shown, and with it a run that analyzes what it found ends well
(`printing_ends_iff_shown`). This is so whatever reads the markup. All that is
asked of a reader is what `Markup.Reader.IsCommon` lists: it shows names and
messages that are plain, and the summary of a run, but no closing tag alone.
A single closing tag in a manifest is then enough to stop a run after all its
work is done (`analyze_stops_at_closing_tag`).
-/
import ManifestDeps.CommandLine.Run
import ManifestDeps.Proofs.MarkupTheorems

namespace ManifestDeps

open Markup (MarkupError IsPlain)

/-! ## §1 Texts of a report -/

section

variable {libraries : Libraries} {r : Report}

/-- The texts of a report that are printed with markup. -/
def Report.markedTexts (libraries : Libraries) (r : Report) : List String :=
  r.flatMap fun e =>
    e.1 :: e.2.dependencies.map Prod.fst ++
      e.2.diagnostics.map fun d => d.tableText (libraries.behindMessage d)

/-- Each text of a report is shown. -/
def Report.IsShown (libraries : Libraries) (r : Report) : Prop :=
  ∀ text ∈ r.markedTexts libraries, ∃ cs, libraries.shown text.toList = .ok cs

/-- The names, paths and messages of a report are plain. -/
structure Report.Plain (libraries : Libraries) (r : Report) : Prop where
  component : ∀ e ∈ r, IsPlain e.1.toList
  module : ∀ e ∈ r, ∀ d ∈ e.2.dependencies, IsPlain d.1.toList
  message : ∀ e ∈ r, ∀ d ∈ e.2.diagnostics,
    IsPlain (d.message ++ libraries.behindMessage d).toList

/-- A name or path of a report is a closing tag. -/
def Report.HasClosingTag (r : Report) : Prop :=
  ∃ word, Markup.IsTagWord word ∧
    ∃ e ∈ r, ∃ name ∈ e.1 :: e.2.dependencies.map Prod.fst,
      name.toList = '[' :: '/' :: word ++ [']']

instance (cs : List Char) : Decidable (IsPlain cs) :=
  decidable_of_iff ('[' ∉ cs ∧ cs.any Text.isLoneSurrogate = false)
    ⟨fun h => ⟨h.1, h.2⟩, fun h => ⟨h.noOpening, h.encodable⟩⟩

/-- A message that is plain may stand below a table. -/
theorem Diagnostic.exists_shown_tableText {shown : Markup.Reader} (hcommon : shown.IsCommon)
    {d : Diagnostic} {behind : String} (h : IsPlain (d.message ++ behind).toList) :
    ∃ cs, shown (d.tableText behind).toList = .ok cs := by
  have htext : (d.tableText behind).toList =
      "  ".toList ++ ('[' :: d.severity.style.toList ++ ']' ::
        (d.severity.name.toList ++ ('[' :: '/' :: d.severity.style.toList ++ ']' ::
          (' ' :: (d.message ++ behind).toList)))) := by
    unfold Diagnostic.tableText
    simp
  rw [htext]
  refine hcommon.styled ?_ (by decide) (by decide) ?_ ?_ ⟨?_, ?_⟩
  · cases d.severity <;> simp [Severity.style]
  · cases d.severity <;> decide
  · cases d.severity <;> decide
  · exact fun hm => h.noOpening ((List.mem_cons.mp hm).resolve_left (by decide))
  · rw [List.any_cons, h.encodable]
    rfl

/-- **Plain names and messages are shown.** -/
theorem Report.Plain.isShown (hcommon : libraries.shown.IsCommon) (h : r.Plain libraries) :
    r.IsShown libraries := by
  intro text hmem
  obtain ⟨e, he, htext⟩ := List.mem_flatMap.mp hmem
  rcases List.mem_append.mp htext with hname | hmessage
  · rcases List.mem_cons.mp hname with rfl | hmodule
    · exact hcommon.plain (h.component e he)
    · obtain ⟨d, hd, rfl⟩ := List.mem_map.mp hmodule
      exact hcommon.plain (h.module e he d hd)
  · obtain ⟨d, hd, rfl⟩ := List.mem_map.mp hmessage
    exact Diagnostic.exists_shown_tableText hcommon (h.message e he d hd)

/-- **A closing tag is not shown.** -/
theorem Report.HasClosingTag.not_isShown (hcommon : libraries.shown.IsCommon)
    (h : r.HasClosingTag) : ¬ r.IsShown libraries := by
  intro hshown
  obtain ⟨word, hword, e, he, name, hname, htext⟩ := h
  obtain ⟨cs, hcs⟩ := hshown name (List.mem_flatMap.mpr ⟨e, he, List.mem_append_left _ hname⟩)
  obtain ⟨error, herror⟩ := hcommon.unopened hword
  rw [htext, herror] at hcs
  cases hcs

end

/-! ## §2 Printing a report -/

theorem exists_mapM_eq_ok_iff {ε α β : Type} {f : α → Except ε β} {xs : List α} :
    (∃ ys, xs.mapM f = .ok ys) ↔ ∀ x ∈ xs, ∃ y, f x = .ok y := by
  induction xs with
  | nil => simp [pure, Except.pure]
  | cons x xs ih =>
    rw [List.mapM_cons, List.forall_mem_cons, ← ih]
    cases f x with
    | error e => simp [bind, Except.bind]
    | ok y =>
      cases xs.mapM f with
      | error e => simp [bind, Except.bind]
      | ok ys => simp [bind, Except.bind, pure, Except.pure]

theorem exists_map_eq_ok_iff {ε α β : Type} {f : α → β} {x : Except ε α} :
    (∃ b, x.map f = .ok b) ↔ ∃ a, x = .ok a := by
  cases x <;> simp [Except.map]

section

variable {shown : Markup.Reader}

/-- A table is drawn when its title and its modules are shown. -/
theorem exists_dependencyTable_iff {title : String} {ds : List (String × Strength)} :
    (∃ lines, dependencyTable shown title ds = .ok lines) ↔
      (∃ cs, shown title.toList = .ok cs) ∧ ∀ d ∈ ds, ∃ cs, shown d.1.toList = .ok cs := by
  rw [← exists_mapM_eq_ok_iff, dependencyTable]
  cases ds.mapM fun d => shown d.1.toList with
  | error e => simp [bind, Except.bind]
  | ok modules =>
    cases shown title.toList with
    | error e => simp [bind, Except.bind]
    | ok heading => simp [bind, Except.bind, pure, Except.pure]

theorem exists_printedLines_iff {text : String} :
    (∃ lines, printedLines shown text = .ok lines) ↔ ∃ cs, shown text.toList = .ok cs := by
  rw [printedLines, exists_map_eq_ok_iff]

end

/-- Printing comes to its end when no text fails. -/
theorem Printed.error_ofTexts {texts : List (Except MarkupError (List (List Char)))} :
    (Printed.ofTexts texts).error = none ↔ ∀ x ∈ texts, ∃ lines, x = .ok lines := by
  induction texts with
  | nil => simp [Printed.ofTexts]
  | cons x rest ih =>
    rw [List.forall_mem_cons, ← ih]
    cases x with
    | error e => simp [Printed.ofTexts]
    | ok lines => simp [Printed.ofTexts]

/-- Tables are printed to their end when all texts are shown. -/
theorem Report.error_toTables {libraries : Libraries} {r : Report} :
    (r.toTables libraries).error = none ↔ r.IsShown libraries := by
  rw [Report.toTables, Printed.error_ofTexts, Report.IsShown, Report.markedTexts]
  simp only [ReportEntry.texts, List.forall_mem_flatMap, List.forall_mem_cons,
    List.forall_mem_append, List.forall_mem_map, List.cons_append,
    exists_dependencyTable_iff, exists_printedLines_iff, and_assoc]

/-- The other forms are always printed to their end. -/
theorem Report.error_print {libraries : Libraries} {r : Report} {f : OutputFormat} :
    (r.print f libraries).error = none ↔ (f = .table → r.IsShown libraries) := by
  cases f with
  | json => simp [Report.print]
  | yaml => simp [Report.print]
  | table => simp [Report.print, Report.error_toTables]

/-! ## §3 Runs -/

namespace CommandLine

/-- The arguments ask for the analysis of what is found below an existing
root; the settings are accepted, and there is a component. -/
structure AsksToAnalyze (s : Surroundings) (args : List String) (settings : Settings)
    (found : Discovery) (libraries : Libraries := {}) : Prop where
  job : ∃ arguments job, Request.ofArguments args = .ok (.command .analyze arguments) ∧
    Job.ofArguments s .analyze arguments = .ok job ∧
    Settings.load s.tree s.directory s.environment job.arguments libraries.readYaml =
      .ok settings ∧
    discover s.tree [] job.root.text settings.ignoreDirs = .ok found
  nonempty : found.names ≠ []

/-- The report on components below a root. -/
def reportOn (t : FileTree) (root : Path) (components : List String) : Report :=
  let (results, ds) := Analyzer.analyzeEach { pool := Pool.ofDirectory t root } components
  Report.ofResults results ds

theorem exitCode_eq_zero_iff {e : Ending} : e.exitCode = 0 ↔ e = .finished := by
  cases e <;> simp [Ending.exitCode]

/-- The summary of an analysis is shown. -/
def ShowsSummary (libraries : Libraries) (components : Nat) (ds : List Diagnostic) : Prop :=
  ∃ cs, libraries.shown ("[blue]" ++ summary components ds ++ "[/blue]").toList = .ok cs

/-- A run that has something to tell goes on if this is shown. -/
theorem ending_inform_iff {shown : Markup.Reader} {r : Run} (h : r.ending = .finished)
    (message : String) : (r.inform shown message).ending = .finished ↔
      ∃ cs, shown ("[blue]" ++ message ++ "[/blue]").toList = .ok cs := by
  rw [Run.inform, Run.close, shownMessage]
  cases shown ("[blue]" ++ message ++ "[/blue]").toList with
  | error e => simp [Except.map]
  | ok cs => simp [Except.map, h]

/-- A character without a meaning in markup. -/
def isUnmarked (c : Char) : Bool :=
  c != '[' && c != '\\' && !Text.isLoneSurrogate c

theorem isUnmarked_of_isDigit {c : Char} (h : c.isDigit = true) : isUnmarked c = true := by
  have hne (d : Char) (hd : d.isDigit = false) : (c != d) = true := by
    rw [bne_iff_ne]
    rintro rfl
    rw [hd] at h
    cases h
  have hsurrogate : Text.isLoneSurrogate c = false := by
    simp only [Char.isDigit, Bool.and_eq_true, decide_eq_true_eq] at h
    have hle : c.toNat ≤ 57 := h.2
    simp only [Text.isLoneSurrogate, decide_eq_false_iff_not]
    omega
  rw [isUnmarked, hne '[' (by decide), hne '\\' (by decide), hsurrogate]
  rfl

theorem all_isUnmarked_append (s t : String) :
    (s ++ t).toList.all isUnmarked = (s.toList.all isUnmarked && t.toList.all isUnmarked) := by
  rw [String.toList_append, List.all_append]

theorem all_isUnmarked_number (n : Nat) : (toString n).toList.all isUnmarked = true :=
  List.all_eq_true.mpr fun c hc =>
    isUnmarked_of_isDigit (Nat.isDigit_of_mem_toDigits (by decide) (by decide)
      (Nat.toList_repr ▸ hc))

/-- A summary has no markup: it is words and numbers. -/
theorem all_isUnmarked_summary (n : Nat) (ds : List Diagnostic) :
    (summary n ds).toList.all isUnmarked = true := by
  have hcomponents := all_isUnmarked_number n
  have hwarnings := all_isUnmarked_number (ds.countP (·.severity == .warn))
  have herrors := all_isUnmarked_number (ds.countP (·.severity == .error))
  have hplural : (if n = 1 then "" else "s").toList.all isUnmarked = true := by
    split <;> decide
  unfold summary
  simp only [all_isUnmarked_append]
  rw [hcomponents, hwarnings, herrors, hplural]
  decide

/-- **The summary of an analysis is shown**, since nothing in it comes from
outside. -/
theorem showsSummary {libraries : Libraries} (hcommon : libraries.shown.IsCommon) (n : Nat)
    (ds : List Diagnostic) : ShowsSummary libraries n ds := by
  have hall : ∀ c ∈ (summary n ds).toList, isUnmarked c = true :=
    List.all_eq_true.mp (all_isUnmarked_summary n ds)
  have hplain : IsPlain (summary n ds).toList :=
    ⟨fun hm => absurd (hall _ hm) (by decide), List.any_eq_false.mpr fun c hc => by
      have hc := hall c hc
      simp only [isUnmarked, Bool.and_eq_true, Bool.not_eq_true'] at hc
      simp [hc.2]⟩
  have hslash : '\\' ∉ (summary n ds).toList := fun hm => absurd (hall _ hm) (by decide)
  have hblue : "blue".toList ∈ ["red".toList, "yellow".toList, "blue".toList] := by decide
  have hnil : IsPlain [] := by decide
  have hshown := hcommon.styled hblue hnil List.not_mem_nil hplain hslash hnil
  simpa [ShowsSummary] using hshown

/-- The summary that a run ends with. -/
def ShowsSummaryOf (libraries : Libraries) (t : FileTree) (root : Path)
    (components : List String) : Prop :=
  let (results, ds) := Analyzer.analyzeEach { pool := Pool.ofDirectory t root } components
  ShowsSummary libraries results.length ds

/-- An analysis ends well when its report is printed to the end, and its
summary is. -/
theorem ending_analyzeComponents {s : Surroundings} {root : Path} {settings : Settings}
    {cs : List String} {libraries : Libraries} :
    (analyzeComponents s root settings cs libraries).ending = .finished ↔
      ((reportOn s.tree root cs).print settings.outputFormat libraries).error = none ∧
        ShowsSummaryOf libraries s.tree root cs := by
  rw [analyzeComponents, reportOn, ShowsSummaryOf]
  simp only
  split
  · next e he => simp [he]
  · next he =>
    simp only [he, true_and]
    exact ending_inform_iff rfl _

/-- The arguments of an analysis of what is found: options that can be set, and
an existing directory. -/
theorem exists_of_ofArguments_analyze {s : Surroundings} {r : ReadArguments} {job : Job}
    (h : Job.ofArguments s .analyze r = .ok job) :
    ∃ arguments rootName root, r.given.foldlM (setArgument s r) {} = .ok arguments ∧
      r.operands = [rootName] ∧ checkDirectory s (.operand "ROOT") rootName = .ok root ∧
      job = { root, arguments } := by
  rw [Job.ofArguments] at h
  cases hargs : r.given.foldlM (setArgument s r) {} with
  | error e => rw [hargs] at h; cases h
  | ok arguments =>
    rw [hargs] at h
    cases hoperands : r.operands with
    | nil => rw [hoperands] at h; cases h
    | cons rootName rest =>
      rw [hoperands] at h
      cases hroot : checkDirectory s (.operand "ROOT") rootName with
      | error e => simp [hroot, bind, Except.bind] at h
      | ok root =>
        cases rest with
        | cons extra more => simp [hroot, bind, Except.bind] at h
        | nil =>
          have hjob : ({ root, arguments } : Job) = job := by
            simpa [hroot, bind, Except.bind, pure, Except.pure] using h
          exact ⟨arguments, rootName, root, rfl, rfl, hroot, hjob.symm⟩

/-- To analyze what is found is a job without a component of its own. -/
theorem component_of_analyze {s : Surroundings} {r : ReadArguments} {job : Job}
    (h : Job.ofArguments s .analyze r = .ok job) : job.component = none := by
  obtain ⟨arguments, rootName, root, -, -, -, rfl⟩ := exists_of_ofArguments_analyze h
  rfl

theorem AsksToAnalyze.run_eq {s : Surroundings} {args : List String} {settings : Settings}
    {found : Discovery} {libraries : Libraries}
    (h : AsksToAnalyze s args settings found libraries) :
    run s args libraries = analyzeComponents s found.root settings found.names libraries := by
  obtain ⟨arguments, job, hrequest, hjob, hsettings, hfound⟩ := h.job
  have hsome : found.names.isEmpty = false := by simp [h.nonempty]
  rw [run, hrequest]
  simp only [hjob]
  rw [Job.run, hsettings]
  simp only
  rw [Job.runWith, component_of_analyze hjob, hfound]
  simp [hsome]

/-- A run ends well when the report is printed to its end and the summary is
shown. -/
theorem AsksToAnalyze.exitCode_iff {s : Surroundings} {args : List String} {settings : Settings}
    {found : Discovery} {libraries : Libraries}
    (h : AsksToAnalyze s args settings found libraries) :
    (run s args libraries).ending.exitCode = 0 ↔
      (settings.outputFormat = .table →
        (reportOn s.tree found.root found.names).IsShown libraries) ∧
        ShowsSummaryOf libraries s.tree found.root found.names := by
  rw [exitCode_eq_zero_iff, h.run_eq, ending_analyzeComponents, Report.error_print]

/-- Printing a report comes to its end in every form but the one for
terminals; there it does so exactly when each name, module and message is
shown. A run that prints the report ends well in just these cases, if its
summary is shown, too. This is so for all libraries. With one that reads
markup in the common way, the summary is shown, and so are plain names,
modules and messages, so that JSON and YAML never fail and tables do not
without an opening bracket; but a name or module that is a closing tag makes
the run fail in the form for terminals. -/
theorem printing_ends_iff_shown (libraries : Libraries) (r : Report) (f : OutputFormat) :
    ((r.print f libraries).error = none ↔ (f = .table → r.IsShown libraries)) ∧
    (∀ (s : Surroundings) (args : List String) (settings : Settings) (found : Discovery),
      AsksToAnalyze s args settings found libraries → settings.outputFormat = f →
        reportOn s.tree found.root found.names = r →
          ((run s args libraries).ending.exitCode = 0 ↔
            (f = .table → r.IsShown libraries) ∧
              ShowsSummaryOf libraries s.tree found.root found.names)) ∧
    (libraries.shown.IsCommon →
      (∀ t root components, ShowsSummaryOf libraries t root components) ∧
      (r.Plain libraries → r.IsShown libraries) ∧
      (r.HasClosingTag → ¬ r.IsShown libraries)) := by
  refine ⟨Report.error_print, ?_, fun hcommon => ⟨fun t root components => ?_,
    fun h => h.isShown hcommon, fun h => h.not_isShown hcommon⟩⟩
  · rintro s args settings found h rfl rfl
    exact h.exitCode_iff
  · exact showsSummary hcommon _ _

/-- The name of a library is a tag that closes what was never opened: with the
common reading of markup, the run fails once it prints the table, and ends well
in the other forms. -/
theorem analyze_stops_at_closing_tag :
    let descriptor := "\x7b\"sap.ui5\": \x7b\"dependencies\": \x7b\"libs\": " ++
      "\x7b\"[/x]\": \x7b\x7d\x7d\x7d\x7d\x7d"
    let tree := ((FileTree.directory []).put ["my", "Component.js"] (.file [])).put
      ["my", "manifest.json"] (.file (Text.encodeUtf8 descriptor))
    let s : Surroundings := { tree, directory := [] }
    ({} : Libraries).shown.IsCommon ∧
      (∃ settings found, AsksToAnalyze s ["analyze", "."] settings found) ∧
      (run s ["analyze", "."]).ending.exitCode = 1 ∧
      (run s ["analyze", ".", "--format", "json"]).ending.exitCode = 0 ∧
      (run s ["analyze", ".", "--format", "yaml"]).ending.exitCode = 0 := by
  intro descriptor tree s
  have hnames : (discover tree [] "/" defaultIgnoreDirs).toOption =
      some ⟨[], [⟨["my", "Component.js"], "my/Component.js"⟩]⟩ := by decide +kernel
  have hfound : discover tree [] "/" defaultIgnoreDirs =
      .ok ⟨[], [⟨["my", "Component.js"], "my/Component.js"⟩]⟩ := by
    cases hd : discover tree [] "/" defaultIgnoreDirs with
    | error e =>
      rw [hd] at hnames
      cases hnames
    | ok found =>
      rw [hd] at hnames
      exact congrArg Except.ok (Option.some.inj hnames)
  have hasks : AsksToAnalyze s ["analyze", "."] ⟨.warning, 8, .table, defaultIgnoreDirs⟩
      ⟨[], [⟨["my", "Component.js"], "my/Component.js"⟩]⟩ :=
    ⟨⟨{ operands := ["."] }, { root := [], arguments := {} }, rfl, rfl, by decide +kernel, hfound⟩,
      by decide⟩
  exact ⟨Markup.plain_isCommon, ⟨_, _, hasks⟩, by decide +kernel, by decide +kernel,
    by decide +kernel⟩

end CommandLine

end ManifestDeps
