/-
ManifestDeps.Proofs.IsolationTheorems — a component in a batch, and alone.

The components of a batch have one directory, one limit and one recorder in
common, and still the entry for each of them in the report is what it would
be in a world of nothing but the descriptor beside it
(`ReportEntry.ofDescriptor`). Three things keep them apart. A name that was
found leads below the root, so that the analysis reads the one file beside
the component (`FoundComponent.StandsIn.entryFor_eq`). Every record names
the component whose analysis made it, and the names are distinct, so that
the report gives each its own back, whatever the order of settling
(`Analyzer.LeavesComponentOpen.lookup_report`). And log level and limit are
settings that the report is not made from. The command for a single
component runs the same analysis on a list of one; that the plain command
line asks for it is read off its arguments (`asksToShow_written`). Main
result: `entry_depends_on_descriptor_only`.
-/
import ManifestDeps.Proofs.ArgumentTheorems
import ManifestDeps.Proofs.PrintingTheorems
import ManifestDeps.Proofs.SeparateBatchTheorems
import ManifestDeps.Proofs.SiblingTheorems

namespace ManifestDeps

open ModuleName (componentFilename descriptorFilename descriptorOf)

/-! ## §1 The entry for a component alone -/

/-- The entry for a component that is analyzed by itself. -/
def Analyzer.entryFor (a : Analyzer) (c : String) : ReportEntry :=
  ⟨(a.analyze c .empty).dependencies.sorted, reportedFor c (a.reports c)⟩

/-- The pool of one file under a name, or of none. -/
def Pool.lone (name : String) (bytes? : Option (List UInt8)) : Pool :=
  .ofTable (bytes?.toList.map fun bytes => (name, .bytes bytes))

/-- The entry for a component in a world of nothing but its descriptor. -/
def ReportEntry.ofDescriptor (c : String) (descriptor? : Option (List UInt8)) : ReportEntry :=
  ({ pool := .lone (descriptorOf c) descriptor? } : Analyzer).entryFor c

/-- The descriptor in the directory of a component below a root, if there is
one. -/
def descriptorBeside (t : FileTree) (root : Path) (c : String) : Option (List UInt8) :=
  t.contentAt? (root ++ (segmentsOf c).dropLast ++ [descriptorFilename])

theorem Pool.content_lone (name : String) (bytes? : Option (List UInt8)) :
    (lone name bytes?).content name =
      match bytes? with
      | some bytes => .ok (.ok bytes)
      | none => .error (.resourceNotFound name) := by
  cases bytes? with
  | none => rfl
  | some bytes => simp [content, lone, ofTable, Content.toBytes, Except.map]

namespace FoundComponent.StandsIn

variable {c : FoundComponent} {root dirs : Path}

/-- The component of this name stands in the same directories below any
other root. -/
theorem elsewhere (h : c.StandsIn root dirs) (root' : Path) :
    StandsIn ⟨root' ++ (dirs ++ [componentFilename]), c.name⟩ root' dirs :=
  ⟨h.isNormal, rfl, h.name_eq⟩

/-- Beside its file is where its name says. -/
theorem dropLast_path (h : c.StandsIn root dirs) :
    c.path.dropLast = root ++ (segmentsOf c.name).dropLast := by
  rw [h.path_eq, h.name_eq, segmentsOf_append_filename h.isNormal (by decide),
    ← List.append_assoc, List.dropLast_concat, List.dropLast_concat]

/-- **Only the descriptor beside it counts**: the component has the entry that
it has without any other file. -/
theorem entryFor_eq (h : c.StandsIn root dirs) (t : FileTree) :
    ({ pool := .ofDirectory t root } : Analyzer).entryFor c.name =
      .ofDescriptor c.name (descriptorBeside t root c.name) := by
  have hcontent : (Pool.ofDirectory t root).content (descriptorOf c.name) =
      (Pool.lone (descriptorOf c.name) (descriptorBeside t root c.name)).content
        (descriptorOf c.name) := by
    rw [Pool.content_lone, Pool.content, Pool.find_ofDirectory h.resolve_descriptor,
      h.dropLast_path, ← descriptorBeside]
    cases descriptorBeside t root c.name <;> rfl
  have hanalyze := Analyzer.analyze_congr (Pool.load_congr hcontent) defaultRules .empty
  rw [ReportEntry.ofDescriptor, Analyzer.entryFor, Analyzer.entryFor, Analyzer.reports,
    Analyzer.reports, hanalyze]

end FoundComponent.StandsIn

/-- **A batch gives each component its own back.** In the report on components
with distinct names, the entry for one of them is that of the component
alone, in whatever order the analyses are settled. -/
theorem Analyzer.LeavesComponentOpen.lookup_report {a : Analyzer} (h : a.LeavesComponentOpen)
    {cs : List String} (hdistinct : cs.Nodup) {c : String} (hc : c ∈ cs)
    {records : List Diagnostic} (hrecords : a.Records cs records) :
    (Report.ofResults (a.analyzeEach cs).1 records).lookup c = some (a.entryFor c) := by
  have hnames : ((a.analyzeEach cs).1.map Prod.fst).Nodup :=
    a.names_analyzeEach cs ▸ Table.nodup_eraseDups cs
  have hresult : (c, (a.analyze c .empty).dependencies) ∈ (a.analyzeEach cs).1 := by
    rw [a.analyzeEach_eq]
    exact List.mem_map_of_mem (List.mem_eraseDups.mpr hc)
  obtain ⟨order, hperm, rfl⟩ := hrecords
  have hone : order.filter (· == c) = [c] := by
    have hcount := List.count_eq_one_of_mem (hperm.nodup_iff.mpr hdistinct) (hperm.mem_iff.mpr hc)
    rw [List.filter_beq, hcount, List.replicate_one]
  rw [Report.lookup_ofResults_of_mem hnames hresult, h.reportedFor_flatMap, hone,
    List.flatMap_singleton, ← h.reportedFor_self, entryFor]

namespace CommandLine

/-! ## §2 What a run prints -/

/-- The run ends well and has printed a report as JSON, and this is the entry
for the component. -/
structure Run.PrintsEntry (r : Run) (report : Report) (c : String) (entry : ReportEntry) :
    Prop where
  ending : r.ending = .finished
  out : r.out = Json.print report.toJson ++ "\n"
  lookup : report.lookup c = some entry

variable {s : Surroundings} {args : List String} {settings : Settings} {root : Path}
  {c : String} {entry : ReportEntry}

/-- Telling something leaves alone what was printed. -/
theorem out_inform (shown : Markup.Reader) (r : Run) (message : String) :
    (r.inform shown message).out = r.out := by
  rw [Run.inform, Run.close]
  split <;> rfl

/-- What is printed is the report. -/
theorem out_analyzeComponents (cs : List String) :
    (analyzeComponents s root settings cs).out =
      ((reportOn s.tree root cs).print settings.outputFormat).text := by
  rw [analyzeComponents, reportOn]
  simp only
  split
  · rfl
  · rw [out_inform]

theorem printsEntry_analyzeComponents {cs : List String} (hjson : settings.outputFormat = .json)
    (hentry : (reportOn s.tree root cs).lookup c = some entry) :
    (analyzeComponents s root settings cs).PrintsEntry (reportOn s.tree root cs) c entry where
  ending := by
    rw [ending_analyzeComponents, Report.error_print]
    exact ⟨by simp [hjson], showsSummary Markup.plain_isCommon _ _⟩
  out := by rw [out_analyzeComponents, hjson, Report.print]
  lookup := hentry

/-- The tree and the current directory are such as a file system has them. -/
structure Surroundings.IsProper (s : Surroundings) : Prop where
  tree : s.tree.IsProper
  directory : s.directory.IsNormal

/-- The names that are found are distinct. -/
theorem AsksToAnalyze.nodup_names {found : Discovery} (h : AsksToAnalyze s args settings found)
    (hs : s.IsProper) : found.names.Nodup := by
  obtain ⟨-, job, -, -, -, hfound⟩ := h.job
  obtain ⟨-, entries, hroot, hcomponents⟩ := exists_entries_of_discover hfound
  rw [Discovery.names, hcomponents]
  exact (FileTree.pairwise_lt_names_components (hs.tree.find? hroot).2 found.root).imp
    fun hlt => String.ne_of_lt hlt

/-- A name that is found is that of a component below the root. -/
theorem AsksToAnalyze.exists_standsIn {found : Discovery}
    (h : AsksToAnalyze s args settings found) (hs : s.IsProper) (hc : c ∈ found.names) :
    ∃ (component : FoundComponent) (dirs : Path),
      component.name = c ∧ component.StandsIn found.root dirs := by
  obtain ⟨-, job, -, -, -, hfound⟩ := h.job
  obtain ⟨component, hmem, rfl⟩ := List.mem_map.mp hc
  obtain ⟨dirs, hstands⟩ := Discovery.exists_standsIn hs.tree hfound hmem
  exact ⟨component, dirs, rfl, hstands⟩

/-- Components that are found, side by side under any limit. -/
theorem AsksToAnalyze.lookup_of_ends {found : Discovery}
    (h : AsksToAnalyze s args settings found) (hs : s.IsProper) (hc : c ∈ found.names)
    {k : Option Int} {results : List (String × DependencySet)} {records : List Diagnostic}
    (hends : SeparateBatch.Ends { pool := .ofDirectory s.tree found.root } k found.names results
      records) :
    (Report.ofResults results records).lookup c =
      some (.ofDescriptor c (descriptorBeside s.tree found.root c)) := by
  have hopen : ({ pool := .ofDirectory s.tree found.root } : Analyzer).LeavesComponentOpen :=
    Analyzer.UsesDefaultRules.leavesComponentOpen fun rule hrule => .inl hrule
  obtain ⟨component, dirs, rfl, hstands⟩ := h.exists_standsIn hs hc
  obtain ⟨rfl, hrecords⟩ := SeparateBatch.eq_of_ends hends
  rw [hopen.lookup_report (h.nodup_names hs) hc hrecords, hstands.entryFor_eq]

/-- A run that analyzes what it found. -/
theorem AsksToAnalyze.printsEntry {found : Discovery} (h : AsksToAnalyze s args settings found)
    (hs : s.IsProper) (hjson : settings.outputFormat = .json) (hc : c ∈ found.names) :
    (run s args).PrintsEntry (reportOn s.tree found.root found.names) c
      (.ofDescriptor c (descriptorBeside s.tree found.root c)) := by
  rw [h.run_eq]
  exact printsEntry_analyzeComponents hjson
    (h.lookup_of_ends hs hc (SeparateBatch.ends_analyzeEach _ none found.names))

/-! ## §3 The command for a single component -/

/-- The arguments ask for the analysis of one component below an existing root,
and the settings are accepted. -/
def AsksToShow (s : Surroundings) (args : List String) (settings : Settings) (root : Path)
    (c : String) : Prop :=
  ∃ arguments job, Request.ofArguments args = .ok (.command .single arguments) ∧
    Job.ofArguments s .single arguments = .ok job ∧
    Settings.load s.tree s.directory s.environment job.arguments = .ok settings ∧
    job.root = root ∧ job.component = some c

theorem AsksToShow.run_eq (h : AsksToShow s args settings root c) :
    run s args = analyzeComponents s root settings [c] := by
  obtain ⟨arguments, job, hrequest, hjob, hsettings, rfl, hcomponent⟩ := h
  rw [run, hrequest]
  simp only [hjob]
  rw [Job.run, hsettings]
  simp only
  rw [Job.runWith, hcomponent]

theorem reportOn_singleton (t : FileTree) (root : Path) (c : String) :
    reportOn t root [c] = [(c, ({ pool := .ofDirectory t root } : Analyzer).entryFor c)] :=
  rfl

/-- A run for a single component, which is named as if it had been found. -/
theorem AsksToShow.printsEntry (h : AsksToShow s args settings root c)
    (hjson : settings.outputFormat = .json) {component : FoundComponent} {dirs : Path}
    (hstands : component.StandsIn root dirs) (hc : component.name = c) :
    let entry := ReportEntry.ofDescriptor c (descriptorBeside s.tree root c)
    (run s args).PrintsEntry [(c, entry)] c entry := by
  intro entry
  have hreport : reportOn s.tree root [c] = [(c, entry)] := by
    rw [reportOn_singleton, ← hc, hstands.entryFor_eq, hc]
  rw [h.run_eq, ← hreport]
  exact printsEntry_analyzeComponents hjson (by simp [hreport])

/-- These options can be set, and these are the settings then. -/
def Accepts (s : Surroundings) (options : List (Flag × String)) (settings : Settings) : Prop :=
  ∃ arguments,
    ({ flags := options } : ReadArguments).given.foldlM (setArgument s { flags := options }) {} =
      .ok arguments ∧
    Settings.load s.tree s.directory s.environment arguments = .ok settings

/-- Operands do not matter when options are set. -/
theorem setArgument_congr {r r' : ReadArguments} (h : r.flags = r'.flags) :
    setArgument s r = setArgument s r' := by
  funext arguments f
  have hvalue : r.value? f = r'.value? f := by rw [ReadArguments.value?, h, ReadArguments.value?]
  simp only [setArgument, hvalue]

/-- A path that is accepted as a directory is what its name leads to. -/
theorem eq_walk_of_checkDirectory {p : Parameter} {name : String}
    (h : checkDirectory s p name = .ok root) :
    '\x00' ∉ name.toList ∧ root = Path.walk s.directory name := by
  have hnul : '\x00' ∉ name.toList := by
    intro hnul
    simp [checkDirectory, pathValue, hnul, bind, Except.bind] at h
  refine ⟨hnul, ?_⟩
  rw [checkDirectory] at h
  cases hvalue : pathValue s name with
  | error e => simp [hvalue, bind, Except.bind] at h
  | ok node =>
    match node with
    | none => simp [hvalue, bind, Except.bind] at h
    | some (.file _) => simp [hvalue, bind, Except.bind] at h
    | some (.directory _) => simpa [hvalue, bind, Except.bind] using h.symm

/-- The search starts where the operand leads. -/
theorem AsksToAnalyze.checkDirectory_eq {found : Discovery}
    (h : AsksToAnalyze s args settings found) (hs : s.IsProper) {arguments : ReadArguments}
    {rootName : String} (hrequest : Request.ofArguments args = .ok (.command .analyze arguments))
    (hoperands : arguments.operands = [rootName]) :
    checkDirectory s (.operand "ROOT") rootName = .ok found.root := by
  obtain ⟨arguments', job, hrequest', hjob, -, hfound⟩ := h.job
  obtain rfl : arguments' = arguments := by
    have heq := hrequest'.symm.trans hrequest
    cases heq
    rfl
  obtain ⟨settingArguments, rootName', root, -, hoperands', hroot, rfl⟩ :=
    exists_of_ofArguments_analyze hjob
  obtain rfl : rootName' = rootName := by simpa [hoperands] using hoperands'.symm
  obtain ⟨hnul, rfl⟩ := eq_walk_of_checkDirectory hroot
  have hnormal := (Path.leadsTo_walk s.directory rootName').isNormal hs.directory hnul
  rw [hroot, (exists_entries_of_discover hfound).1, Path.walk_text hnormal]

/-- **The plain command line asks for the component**: root and component in
front, options behind them. -/
theorem asksToShow_written {rootName : String} {options : List (Flag × String)}
    (hroot : checkDirectory s (.operand "ROOT") rootName = .ok root)
    (hrootName : looksLikeOption rootName = false) (hc : looksLikeOption c = false)
    (htakes : Command.single.Takes options) (haccepts : Accepts s options settings) :
    AsksToShow s ("show" :: rootName :: c :: written options) settings root c := by
  obtain ⟨arguments, hset, hload⟩ := haccepts
  have hoperands : ∀ arg ∈ [rootName, c], looksLikeOption arg = false := by
    simp [hrootName, hc]
  let r : ReadArguments := { flags := options, operands := [rootName, c] }
  have hjob : Job.ofArguments s .single r =
      .ok { root := root, component := some c, arguments := arguments } := by
    have hsame : setArgument s r = setArgument s { flags := options } := setArgument_congr rfl
    have hset' : r.given.foldlM (setArgument s r) {} = .ok arguments := hsame ▸ hset
    rw [Job.ofArguments, hset']
    simp [r, hroot, bind, Except.bind, pure, Except.pure]
  exact ⟨r, _, ofArguments_written htakes hoperands, hjob, hload, rfl, rfl⟩

/-! ## §4 In a batch as alone -/

/-- **The entry for a component depends on the descriptor beside it, and on
nothing else.** A run that analyzes what it found prints an entry for each
component. It is the entry that the component has in a world of nothing but
its descriptor: so it is when the component is asked for by itself with
options of its own, when the analyses run side by side under any limit, and
in any other surroundings, for other arguments and other settings, as long
as the descriptor beside the component is the same. -/
theorem entry_depends_on_descriptor_only (hs : s.IsProper) {found : Discovery}
    (h : AsksToAnalyze s args settings found) (hjson : settings.outputFormat = .json)
    (hc : c ∈ found.names) :
    let descriptor? := descriptorBeside s.tree found.root c
    let entry := ReportEntry.ofDescriptor c descriptor?
    (run s args).PrintsEntry (reportOn s.tree found.root found.names) c entry ∧
      (∀ arguments rootName options settings',
        Request.ofArguments args = .ok (.command .analyze arguments) →
        arguments.operands = [rootName] → looksLikeOption rootName = false →
        looksLikeOption c = false → Command.single.Takes options →
        Accepts s options settings' → settings'.outputFormat = .json →
          (run s ("show" :: rootName :: c :: written options)).PrintsEntry [(c, entry)] c entry) ∧
      (∀ k results records,
        SeparateBatch.Ends { pool := .ofDirectory s.tree found.root } k found.names results
          records →
        (Report.ofResults results records).lookup c = some entry) ∧
      (∀ s' args' settings' root', AsksToShow s' args' settings' root' c →
        settings'.outputFormat = .json → descriptorBeside s'.tree root' c = descriptor? →
          (run s' args').PrintsEntry [(c, entry)] c entry) ∧
      ∀ s' args' settings' found', Surroundings.IsProper s' →
        AsksToAnalyze s' args' settings' found' → settings'.outputFormat = .json →
        c ∈ found'.names → descriptorBeside s'.tree found'.root c = descriptor? →
          (run s' args').PrintsEntry (reportOn s'.tree found'.root found'.names) c entry := by
  intro descriptor? entry
  obtain ⟨component, dirs, hname, hstands⟩ := h.exists_standsIn hs hc
  refine ⟨h.printsEntry hs hjson hc, ?_, ?_, ?_, ?_⟩
  · intro arguments rootName options settings' hrequest hoperands hrootName hcName htakes
      haccepts hjson'
    have hroot := h.checkDirectory_eq hs hrequest hoperands
    exact (asksToShow_written hroot hrootName hcName htakes haccepts).printsEntry hjson' hstands
      hname
  · intro k results records hends
    exact h.lookup_of_ends hs hc hends
  · intro s' args' settings' root' h' hjson' hsame
    have hprints := h'.printsEntry hjson' (hstands.elsewhere root') hname
    rw [hsame] at hprints
    exact hprints
  · intro s' args' settings' found' hs' h' hjson' hc' hsame
    have hprints := h'.printsEntry hs' hjson' hc'
    rw [hsame] at hprints
    exact hprints

/-- A component with a library beside one with a malformed descriptor: the same
entry in the batch, for the component by itself, and where it is all there
is. -/
theorem entry_depends_on_descriptor_only_library :
    let bytes := Text.encodeUtf8
      "\x7b\"sap.ui5\": \x7b\"dependencies\": \x7b\"libs\": \x7b\"x\": null\x7d\x7d\x7d\x7d"
    let own : FileTree :=
      .directory [("Component.js", .file []), ("manifest.json", .file bytes)]
    let malformed : FileTree :=
      .directory [("Component.js", .file []), ("manifest.json", .file [])]
    let s : Surroundings :=
      { tree := .directory [("web", .directory [("b", malformed), ("a", own)])], directory := [] }
    let alone : Surroundings := { tree := .directory [("a", own)], directory := [] }
    let args := ["analyze", "web", "--format", "json", "--max-concurrency", "1"]
    let entry : ReportEntry := ⟨[("x/library.js", .required)], []⟩
    s.IsProper ∧ ∃ found, AsksToAnalyze s args ⟨.warning, 1, .json, defaultIgnoreDirs⟩ found ∧
      "a/Component.js" ∈ found.names ∧ "b/Component.js" ∈ found.names ∧
      (run s args).PrintsEntry (reportOn s.tree found.root found.names) "a/Component.js" entry ∧
      (run s ["show", "web", "a/Component.js", "--format", "json"]).PrintsEntry
        [("a/Component.js", entry)] "a/Component.js" entry ∧
      (run alone ["show", ".", "a/Component.js", "-f", "json", "--log-level", "debug"]).PrintsEntry
        [("a/Component.js", entry)] "a/Component.js" entry := by
  intro bytes own malformed s alone args entry
  have hs : s.IsProper := ⟨by simp +decide [s, own, malformed, Table.DistinctNames], by decide⟩
  let web : FileTree := .directory [("b", malformed), ("a", own)]
  let found : Discovery := ⟨["web"], web.components defaultIgnoreDirs ["web"]⟩
  have hmem (dir : String) (h : [dir, "Component.js"] ∈ web.componentPaths defaultIgnoreDirs) :
      "/".intercalate [dir, "Component.js"] ∈ found.names :=
    List.mem_map.mpr ⟨_, FileTree.mem_components.mpr ⟨_, h, rfl⟩, rfl⟩
  have ha : "a/Component.js" ∈ found.names := hmem "a" (by decide)
  have hb : "b/Component.js" ∈ found.names := hmem "b" (by decide)
  have hfound : discover s.tree [] "/web" defaultIgnoreDirs = .ok found :=
    discover_of_find? (by decide) rfl defaultIgnoreDirs
  have hasks : AsksToAnalyze s args ⟨.warning, 1, .json, defaultIgnoreDirs⟩ found :=
    ⟨⟨_, _, rfl, rfl, by decide +kernel, hfound⟩, List.ne_nil_of_mem ha⟩
  have hentry : ReportEntry.ofDescriptor "a/Component.js" (some bytes) = entry := by
    decide +kernel
  have hbeside : descriptorBeside s.tree found.root "a/Component.js" = some bytes := rfl
  obtain ⟨hbatch, hshow, -, helsewhere, -⟩ := entry_depends_on_descriptor_only hs hasks rfl ha
  rw [hbeside, hentry] at hbatch hshow helsewhere
  refine ⟨hs, found, hasks, ha, hb, hbatch, ?_, ?_⟩
  · exact hshow _ "web" [(.format, "json")] ⟨.warning, 8, .json, defaultIgnoreDirs⟩ rfl rfl rfl
      rfl (by decide) ⟨_, rfl, by decide +kernel⟩ rfl
  · exact helsewhere alone _ ⟨.debug, 8, .json, defaultIgnoreDirs⟩ []
      ⟨_, _, rfl, rfl, by decide +kernel, rfl, rfl⟩ rfl rfl

end CommandLine

end ManifestDeps
