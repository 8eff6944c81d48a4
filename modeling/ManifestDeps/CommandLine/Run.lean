/-
ManifestDeps.CommandLine.Run — what the program does with its arguments.

The values of options are checked in the order in which the options are
given, then those of the arguments, and last whether there are too many.
Then the settings are loaded, the components found and analyzed, and the
report is printed. Everything is read from a directory tree, so that a run
is a function of the tree, the environment and the arguments, given the
libraries it relies on.
-/
import ManifestDeps.Analysis
import ManifestDeps.CommandLine.Arguments
import ManifestDeps.Discovery
import ManifestDeps.Report.Print
import ManifestDeps.Resource.Open
import ManifestDeps.Text.DecimalDigit

namespace ManifestDeps.CommandLine

open Markup (MarkupError)

/-- Where the program runs. -/
structure Surroundings where
  tree : FileTree
  /-- The current directory. -/
  directory : Path
  environment : Environment := []

/-! ## How a run ends -/

/-- A failure that the program does not handle. -/
inductive Crash where
  /-- A path holds a NUL character. -/
  | nulInPath
  /-- The settings file cannot be evaluated. -/
  | settings (f : SettingsFailure)
  | discovery (e : DiscoveryError)
  /-- A text to be printed has wrong markup. -/
  | markup (e : MarkupError)
  deriving Repr, DecidableEq

/-- The wording of a failure. -/
def Crash.message : Crash → String
  | nulInPath => "embedded null byte"
  | settings f => f.message
  | discovery e => e.message
  | markup e => e.message

/-- How a run ends. -/
inductive Ending where
  | finished
  /-- The arguments were not accepted. -/
  | misused
  /-- The settings were not accepted. -/
  | refused (e : ConfigError)
  | crashed (c : Crash)
  deriving Repr, DecidableEq

/-- The exit code of an ending. -/
def Ending.exitCode : Ending → Nat
  | finished => 0
  | misused => 2
  | refused _ => 1
  | crashed _ => 1

/-- A line of the log, with the part of the program that wrote it. -/
structure LogEntry where
  source : String
  level : LogLevel
  message : String
  deriving Repr, DecidableEq

/-- What a run leaves behind. -/
structure Run where
  ending : Ending := .finished
  out : String := ""
  err : String := ""
  log : List LogEntry := []
  deriving Repr, DecidableEq

/-- Why a run stops before its end. -/
inductive Stop where
  | usage (f : UsageFault)
  | crash (c : Crash)
  deriving Repr, DecidableEq

/-! ## Values -/

/-- What stands at a path that an argument names. -/
def pathValue (s : Surroundings) (name : String) : Except Stop (Option FileTree) :=
  if name.toList.contains '\x00' then .error (.crash .nulInPath)
  else
    match s.tree.locate s.directory name with
    | .ok p => .ok (s.tree.find? p)
    | .error _ => .ok none

/-- The path of an existing directory. -/
def checkDirectory (s : Surroundings) (p : Parameter) (name : String) : Except Stop Path := do
  let refuse (f : PathFault) : Except Stop Path :=
    .error (.usage (.invalidValue p (.directory name f)))
  match ← pathValue s name with
  | none => refuse .missing
  | some (.file _) => refuse .isFile
  | some (.directory _) => .ok (Path.walk s.directory name)

/-- The name of an existing file. -/
def checkFile (s : Surroundings) (p : Parameter) (name : String) : Except Stop String := do
  let refuse (f : PathFault) : Except Stop String :=
    .error (.usage (.invalidValue p (.file name f)))
  match ← pathValue s name with
  | none => refuse .missing
  | some (.directory _) => refuse .isDirectory
  | some (.file _) => .ok name

/-- An integer in decimal digits of any script. -/
def integer? (s : String) : Option Int :=
  let (negative, body) := Yaml.splitSign (Text.trim Text.isWhiteSpace s.toList)
  (groupedDigits? (body.map Text.toAsciiDigit)).bind fun ds =>
    if Json.maxDigits < ds.length then none
    else
      let n : Int := Json.digitsValue ds
      some (if negative then -n else n)

/-- Set what an option gives. -/
def setArgument (s : Surroundings) (r : ReadArguments) (args : Arguments) (f : Flag) :
    Except Stop Arguments := do
  let value := (r.value? f).getD ""
  let refuse {α : Type} (v : ValueFault) : Except Stop α :=
    .error (.usage (.invalidValue (.flag f) v))
  match f with
  | .config => return { args with configFile := some (← checkFile s (.flag f) value) }
  | .format =>
    match OutputFormat.ofName? value with
    | some o => return { args with outputFormat := some (.str o.name) }
    | none => refuse (.notOutputFormat value)
  | .logLevel => return { args with logLevel := some (.str value) }
  | .maxConcurrency =>
    match integer? value with
    | some n => return { args with maxConcurrency := some (.int n) }
    | none => refuse (.notInteger value)
  | .version => return args
  | .help => return args

/-- What a command is to do. -/
structure Job where
  root : Path
  /-- The only component to be analyzed. -/
  component : Option String := none
  arguments : Arguments

/-- The job that a command's arguments describe. -/
def Job.ofArguments (s : Surroundings) (c : Command) (r : ReadArguments) : Except Stop Job := do
  let arguments ← r.given.foldlM (setArgument s r) {}
  match r.operands with
  | [] => .error (.usage (.missingOperand "ROOT"))
  | rootName :: rest =>
    let root ← checkDirectory s (.operand "ROOT") rootName
    let job : Job := { root, arguments }
    match c, rest with
    | .analyze, [] => return job
    | .analyze, extra => .error (.usage (.extraOperands extra))
    | .single, [] => .error (.usage (.missingOperand "COMPONENT"))
    | .single, [component] => return { job with component }
    | .single, _ :: extra => .error (.usage (.extraOperands extra))

/-! ## Messages -/

/-- A message with markup as it is shown, on lines of any width. -/
def shownMessage (shown : Markup.Reader) (text : String) : Except MarkupError String :=
  (shown text.toList).map fun cs =>
    linesText ((Text.linesOf cs).map (Text.expandTabs 0))

/-- End a run with a message. -/
def Run.close (shown : Markup.Reader) (r : Run) (message : String) : Run :=
  match shownMessage shown message with
  | .ok text => { r with err := r.err ++ text }
  | .error e => { r with ending := .crashed (.markup e) }

/-- Tell something. -/
def Run.inform (shown : Markup.Reader) (r : Run) (message : String) : Run :=
  r.close shown ("[blue]" ++ message ++ "[/blue]")

/-- The summary of an analysis. -/
def summary (components : Nat) (ds : List Diagnostic) : String :=
  let count (s : Severity) : String := toString (ds.countP (·.severity == s))
  "Analyzed " ++ toString components ++ " component" ++ (if components = 1 then "" else "s") ++
    ": " ++ count .warn ++ " warning(s), " ++ count .error ++ " error(s)"

/-- The log entries about descriptors that were found. -/
def foundEntries (pool : Pool) (components : List String) : List LogEntry :=
  components.filterMap fun c =>
    if ModuleName.isBaseComponent c then none
    else
      match pool.find (ModuleName.descriptorOf c) with
      | .ok r =>
        r.path.map fun p =>
          ⟨"component_analyzer.resources", .debug, "Found resource " ++ r.name ++ " at " ++ p.text⟩
      | .error _ => none

/-- The log entries about diagnostics. -/
def diagnosticEntries (threshold : LogLevel) (ds : List Diagnostic) : List LogEntry :=
  (logLines threshold ds).map fun l => ⟨"component_analyzer.diagnostics", l.level, l.message⟩

/-! ## Running -/

/-- Analyze components below a root and print the report. -/
def analyzeComponents (s : Surroundings) (root : Path) (settings : Settings)
    (components : List String) (libraries : Libraries := {}) : Run :=
  let pool := Pool.ofDirectory s.tree root
  let (results, ds) := Analyzer.analyzeEach { pool } components
  let found := if settings.logLevel = .debug then foundEntries pool components else []
  let printed := (Report.ofResults results ds).print settings.outputFormat libraries
  let run : Run :=
    { out := printed.text, log := found ++ diagnosticEntries settings.logLevel ds }
  match printed.error with
  | some e => { run with ending := .crashed (.markup e) }
  | none => run.inform libraries.shown (summary results.length ds)

/-- Do a job with its settings. -/
def Job.runWith (s : Surroundings) (job : Job) (settings : Settings)
    (libraries : Libraries := {}) : Run :=
  match job.component with
  | some component => analyzeComponents s job.root settings [component] libraries
  | none =>
    match discover s.tree [] job.root.text settings.ignoreDirs with
    | .error e => { ending := .crashed (.discovery e) }
    | .ok found =>
      if found.names.isEmpty then
        Run.inform libraries.shown {} ("No Component.js found below " ++ found.root.text)
      else analyzeComponents s found.root settings found.names libraries

/-- What is told of settings that are not accepted. -/
def refusalText (libraries : Libraries) (e : ConfigError) : String :=
  "[red]Error:[/red] " ++ e.message ++ libraries.behindError e

/-- Do a job. -/
def Job.run (s : Surroundings) (job : Job) (libraries : Libraries := {}) : Run :=
  match Settings.load s.tree s.directory s.environment job.arguments libraries.readYaml with
  | .ok settings => job.runWith s settings libraries
  | .error (.config e) =>
    Run.close libraries.shown { ending := .refused e } (refusalText libraries e)
  | .error f => { ending := .crashed (.settings f) }

/-- The run that arguments which are not accepted lead to. -/
def UsageError.run (e : UsageError) : Run :=
  { ending := .misused, err := e.text }

/-- Run the program. -/
def run (s : Surroundings) (args : List String) (libraries : Libraries := {}) : Run :=
  match Request.ofArguments args with
  | .error e => e.run
  | .ok (.help scope) => { out := scope.help }
  | .ok .version => { out := versionText }
  | .ok .nothing => { ending := .misused, err := Scope.program.help }
  | .ok (.command c arguments) =>
    match Job.ofArguments s c arguments with
    | .ok job => job.run s libraries
    | .error (.usage fault) => UsageError.run ⟨.command c, fault⟩
    | .error (.crash crash) => { ending := .crashed crash }

end ManifestDeps.CommandLine
