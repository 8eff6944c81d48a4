/-
ManifestDeps.Manifest.Reader — manifests from the content of a file.

The content is text, or bytes in a Unicode encoding that is found out from
them. Content that is not JSON, not an object, or has a section of another
shape than declared gives a `ManifestError` with the manifest's name. JSON
beyond the limits of the reader gives a `LimitError` instead.
-/
import ManifestDeps.Json.Reader
import ManifestDeps.Manifest.Decoder

namespace ManifestDeps

open Json (LimitError ReadError SyntaxError)
open Text (DecodeError)

/-- The content of a file. -/
inductive Content where
  | text (s : String)
  | bytes (bs : List UInt8)

/-- The bytes of a content; text is stored in UTF-8. -/
def Content.toBytes : Content → List UInt8
  | text s => Text.encodeUtf8 s
  | bytes bs => bs

/-- Why the content of a file is no manifest. -/
inductive ManifestFault where
  | malformed (e : SyntaxError)
  | encoding (e : DecodeError)
  | notObject
  | shape (r : Rejection)
  deriving Repr, DecidableEq

/-- The wording of a fault. -/
def ManifestFault.message : ManifestFault → String
  | malformed e => e.message
  | encoding e => e.message
  | notObject => "descriptor must be a JSON object"
  | shape r => r.message

/-- A file that is no manifest. -/
structure ManifestError where
  name : String
  fault : ManifestFault
  deriving Repr, DecidableEq

/-- The wording of an error. -/
def ManifestError.message (e : ManifestError) : String :=
  "Failed to parse descriptor '" ++ e.name ++ "': " ++ e.fault.message

/-- Why no manifest was read. -/
inductive ManifestFailure where
  | invalid (e : ManifestError)
  | limit (e : LimitError)
  deriving Repr, DecidableEq

/-- The JSON value that a content holds. -/
def Content.readJson (content : Content) (depth : Nat := Json.maxDepth) :
    Except (ManifestFault ⊕ LimitError) Json.Value :=
  match content with
  | text s => toFault (Json.read s depth)
  | bytes bs =>
    match Text.decodeDetected bs with
    | .error e => .error (.inl (.encoding e))
    | .ok cs => toFault (Json.readChars cs depth)
where
  /-- Tell faults of the content from limits of the reader. -/
  toFault : Except ReadError Json.Value → Except (ManifestFault ⊕ LimitError) Json.Value
    | .ok v => .ok v
    | .error (.malformed e) => .error (.inl (.malformed e))
    | .error (.limit e) => .error (.inr e)

/-- The manifest that a JSON value holds. -/
def Manifest.ofJson : Json.Value → Except ManifestFault Manifest
  | .obj ms =>
    match Manifest.checkMembers ms with
    | .ok m => .ok m
    | .faults fs => .error (.shape ⟨"AppDescriptor", fs⟩)
  | _ => .error .notObject

/-- The manifest that a file of a name holds. -/
def Manifest.parse (name : String) (content : Content) (depth : Nat := Json.maxDepth) :
    Except ManifestFailure Manifest :=
  match content.readJson depth with
  | .error (.inr e) => .error (.limit e)
  | .error (.inl f) => .error (.invalid ⟨name, f⟩)
  | .ok v =>
    match Manifest.ofJson v with
    | .ok m => .ok m
    | .error f => .error (.invalid ⟨name, f⟩)

end ManifestDeps
