/-
ManifestDeps.Failure — what can go wrong between a component's name and
its dependencies.
-/
import ManifestDeps.Manifest.Reader

namespace ManifestDeps

/-- Why a resource was not found or read, or a manifest not evaluated. -/
inductive Failure where
  /-- There is no resource of this name. -/
  | resourceNotFound (name : String)
  /-- Components are to be analyzed without a pool to find them in. -/
  | missingPool
  /-- A path holds a NUL character, which no file system accepts. -/
  | nulInPath
  /-- The bytes of a resource are no text. -/
  | encoding (e : Text.DecodeError)
  /-- A descriptor is not a manifest. -/
  | manifest (e : ManifestError)
  /-- A descriptor is beyond the limits of the JSON reader. -/
  | limit (e : Json.LimitError)
  /-- A rule gave up, or who is told of it, with the reason. -/
  | rule (reason : String)
  deriving Repr, DecidableEq

/-- The wording of a failure. -/
def Failure.message : Failure → String
  | resourceNotFound name => "Resource not found: " ++ name
  | missingPool => "A resource pool is required to analyze components"
  | nulInPath => "embedded null byte"
  | encoding e => e.message
  | manifest e => e.message
  | limit e => e.message
  | rule reason => reason

/-- The failure to write out an integer that has too many digits. -/
def Failure.tooManyDigits : Failure :=
  .rule Json.unwritableInteger

/-- The failure that a failed reading of a manifest is. -/
def ManifestFailure.toFailure : ManifestFailure → Failure
  | invalid e => .manifest e
  | limit e => .limit e

end ManifestDeps
