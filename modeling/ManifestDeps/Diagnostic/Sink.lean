/-
ManifestDeps.Diagnostic.Sink — where reports go: into a log, which keeps
those that are grave enough, or into a recorder, which keeps all of them
and hands them on.
-/
import ManifestDeps.Diagnostic.Basic

namespace ManifestDeps

/-- Levels of a log, from the finest. -/
inductive LogLevel where
  | debug
  | info
  | warning
  | error
  | critical
  deriving Repr, DecidableEq

namespace LogLevel

/-- All levels. -/
def all : List LogLevel := [debug, info, warning, error, critical]

/-- The word for a level. -/
def name : LogLevel → String
  | debug => "DEBUG"
  | info => "INFO"
  | warning => "WARNING"
  | error => "ERROR"
  | critical => "CRITICAL"

/-- The level of a word. -/
def ofName? (s : String) : Option LogLevel :=
  all.find? fun x => x.name == s

/-- The rank of a level. -/
def rank : LogLevel → Nat
  | debug => 1
  | info => 2
  | warning => 3
  | error => 4
  | critical => 5

end LogLevel

/-- The level at which a severity is logged. -/
def Severity.logLevel : Severity → LogLevel
  | verbose => .debug
  | warn => .warning
  | error => .error

/-- A line of a log. -/
structure LogLine where
  level : LogLevel
  message : String
  /-- A failure was attached, whose trace follows the line. -/
  hasFailure : Bool
  deriving Repr, DecidableEq

/-- A detail that says that a failure is attached: anything but null. -/
def Detail.isAttached (d : Detail) : Bool :=
  d != .value .null

/-- The line that a report makes. -/
def Diagnostic.logLine (d : Diagnostic) : LogLine where
  level := d.severity.logLevel
  message := d.message
  hasFailure := d.severity == .error && (d.context.lookup "exception").any Detail.isAttached

/-- The lines that a log with a threshold keeps of some reports. -/
def logLines (threshold : LogLevel) (ds : List Diagnostic) : List LogLine :=
  (ds.filter fun d => threshold.rank ≤ d.severity.logLevel.rank).map Diagnostic.logLine

/-- A recorder of reports: those kept since it was last cleared, and all
those handed on. -/
structure Recorder where
  records : List Diagnostic := []
  forwarded : List Diagnostic := []

namespace Recorder

/-- Keep a report and hand it on. -/
def record (r : Recorder) (d : Diagnostic) : Recorder where
  records := r.records ++ [d]
  forwarded := r.forwarded ++ [d]

/-- Forget the reports kept so far. -/
def clear (r : Recorder) : Recorder :=
  { r with records := [] }

/-- The kept reports of a severity. -/
def withSeverity (r : Recorder) (s : Severity) : List Diagnostic :=
  r.records.filter (·.severity == s)

/-- The kept reports of a code. -/
def withCode (r : Recorder) (c : DiagnosticCode) : List Diagnostic :=
  r.records.filter (·.code == c)

end Recorder

end ManifestDeps
