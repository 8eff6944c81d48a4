/-
ManifestDeps.Diagnostic.Dispatch — telling reports to a sink.

A sink has a way to be told for each severity, and may be cleared. Telling
may fail, and leaves the sink in some state whether it does or not. A log
writes a line for what is told, if its threshold lets the level through, and
fails where the message cannot be written; a recorder keeps what it is told
and tells it on to another sink, if it has one, which may be a log, another
recorder or anything else, and fails when that one does.
-/
import ManifestDeps.Diagnostic.Sink

namespace ManifestDeps

/-- What can be told reports. -/
class Sink (σ : Type) where
  verbose : DiagnosticCode → Context → EStateM Failure σ Unit
  warn : DiagnosticCode → Context → EStateM Failure σ Unit
  error : DiagnosticCode → Context → EStateM Failure σ Unit
  /-- Forget what is kept, where something is. -/
  clear : σ → σ := id

/-- Tell a report in the way of its severity. -/
def Sink.emit {σ : Type} [Sink σ] (d : Diagnostic) : EStateM Failure σ Unit :=
  match d.severity with
  | .error => Sink.error d.code d.context
  | .warn => Sink.warn d.code d.context
  | .verbose => Sink.verbose d.code d.context

/-! ## Logs -/

/-- The number of a level, by which thresholds go. -/
def LogLevel.number (level : LogLevel) : Int :=
  10 * level.rank

/-- A log. -/
structure Log where
  /-- The least number of a level that is written. -/
  threshold : Int
  lines : List LogLine := []
  deriving Repr, DecidableEq

namespace Log

/-- The log writes lines of a level. -/
def isEnabledFor (l : Log) (level : LogLevel) : Bool :=
  l.threshold ≤ level.number

/-- Write a line, if its level is let through. -/
def write (l : Log) (line : LogLine) : Log :=
  if l.isEnabledFor line.level then { l with lines := l.lines ++ [line] } else l

/-- Make the message of a report, then write its line. -/
def report (level : LogLevel) (hasFailure : Bool) (code : DiagnosticCode) (context : Context) :
    EStateM Failure Log Unit := do
  let message ← MonadExcept.ofExcept (code.format context)
  modify (·.write ⟨level, message, hasFailure⟩)

/-- The message of a verbose report is not even made if nobody reads it;
those of the others are, whatever the threshold. -/
instance : Sink Log where
  verbose code context := do
    if (← get).isEnabledFor .debug then report .debug false code context
  warn := report .warning false
  error code context :=
    report .error ((context.lookup "exception").any Detail.isAttached) code context

end Log

/-! ## Recorders -/

/-- A recorder over the sink that it tells on to. -/
structure Recording (τ : Type) where
  records : List Diagnostic := []
  forwardTo : Option τ := none

namespace Recording

variable {τ : Type} [Sink τ]

/-- Keep a report, then tell it on. -/
def keep (d : Diagnostic) : EStateM Failure (Recording τ) Unit := fun r =>
  let records := r.records ++ [d]
  match r.forwardTo with
  | none => .ok () { r with records }
  | some t =>
    match Sink.emit d t with
    | .ok _ t => .ok () ⟨records, some t⟩
    | .error f t => .error f ⟨records, some t⟩

instance : Sink (Recording τ) where
  verbose code context := keep ⟨.verbose, code, context⟩
  warn code context := keep ⟨.warn, code, context⟩
  error code context := keep ⟨.error, code, context⟩
  clear r := { r with records := [] }

end Recording

/-- A recorder that lists what it hands on. -/
instance : Sink Recorder where
  verbose code context := modify (·.record ⟨.verbose, code, context⟩)
  warn code context := modify (·.record ⟨.warn, code, context⟩)
  error code context := modify (·.record ⟨.error, code, context⟩)
  clear := Recorder.clear

end ManifestDeps
