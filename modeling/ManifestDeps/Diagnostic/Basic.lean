/-
ManifestDeps.Diagnostic.Basic — reports and their messages.

A report names a situation and carries a context: named details in order.
Its message is the template of the situation with every field replaced,
once, by the text of its detail. Where the context lacks a field the
message is the code followed by the whole context.

A context may hold anything that a rule has put there, also an integer with
more digits than are ever written. `DiagnosticCode.message` is the message
however long it is; to write it (`DiagnosticCode.format`) fails on such a
detail.
-/
import ManifestDeps.Diagnostic.Code
import ManifestDeps.Failure

namespace ManifestDeps

open Json (Value)

/-- A value in the context of a report. -/
inductive Detail where
  | value (v : Value)
  /-- Why a file is no manifest. -/
  | fault (f : ManifestFault)
  /-- Why an analysis failed. -/
  | failure (f : Failure)
  deriving DecidableEq

namespace Detail

/-- The detail that is a text. -/
def str (s : String) : Detail := value (.str s)

/-- The text of a detail in a message. -/
def text : Detail → String
  | value v => v.text
  | fault f => f.message
  | failure f => f.message

/-- The written form of a detail inside a context. -/
def literal : Detail → String
  | value v => v.literal
  | fault f => Text.quoted f.message
  | failure f => Text.quoted f.message

/-- The text of a detail can be written. -/
def isShowable : Detail → Bool
  | value v => v.isShowable
  | fault _ | failure _ => true

end Detail

/-- Named details in order. -/
abbrev Context := List (String × Detail)

/-- The written form of a context. -/
def Context.literal (c : Context) : String :=
  "\x7b" ++ ", ".intercalate (c.map fun e => Text.quoted e.1 ++ ": " ++ e.2.literal) ++ "\x7d"

/-- The text of a piece, if the context has its field. -/
def Piece.fill? (c : Context) : Piece → Option String
  | text s => some s
  | field name => (c.lookup name).map Detail.text

/-- The message of a code with a context. -/
def DiagnosticCode.message (code : DiagnosticCode) (c : Context) : String :=
  match code.template.mapM (Piece.fill? c) with
  | some texts => String.join texts
  | none => code.name ++ " " ++ Context.literal c

/-- What a template asks for can be written, piece by piece. Behind the first
field that the context lacks it is the whole context that has to be. -/
def Context.shows (c : Context) : List Piece → Bool
  | [] => true
  | .text _ :: rest => c.shows rest
  | .field name :: rest =>
    match c.lookup name with
    | some d => d.isShowable && c.shows rest
    | none => c.all (·.2.isShowable)

/-- Write the message of a code with a context. -/
def DiagnosticCode.format (code : DiagnosticCode) (c : Context) : Except Failure String :=
  if c.shows code.template then .ok (code.message c) else .error .tooManyDigits

/-- A report. -/
structure Diagnostic where
  severity : Severity
  code : DiagnosticCode
  context : Context
  deriving DecidableEq

namespace Diagnostic

/-- The message of a report. -/
def message (d : Diagnostic) : String :=
  d.code.message d.context

/-- The message of a report can be written. -/
def isShowable (d : Diagnostic) : Bool :=
  d.context.shows d.code.template

theorem format_eq (d : Diagnostic) :
    d.code.format d.context = if d.isShowable then .ok d.message else .error .tooManyDigits :=
  rfl

/-- The report with a component in front of its context. A component that
the context names already stays the one that is named. -/
def forComponent (component : String) (d : Diagnostic) : Diagnostic :=
  { d with context :=
      ("component", (d.context.lookup "component").getD (.str component)) ::
        d.context.filter (·.1 != "component") }

/-- The component that a report names, if it is named by a text. -/
def component? (d : Diagnostic) : Option String :=
  match d.context.lookup "component" with
  | some (.value (.str s)) => some s
  | _ => none

end Diagnostic

end ManifestDeps
