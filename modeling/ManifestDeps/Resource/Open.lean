/-
ManifestDeps.Resource.Open — opening a file of a tree by its name.

A name is followed through the tree one segment at a time, and every
segment but the last must be a directory, also one that a `..` leaves
again. This differs from walking, where names need not exist.
-/
import ManifestDeps.Resource.FileTree
import ManifestDeps.Text.Quoted

namespace ManifestDeps

/-- Why a file was not opened. -/
inductive OpenError where
  | notFound (name : String)
  | notDirectory (name : String)
  | isDirectory (name : String)
  deriving Repr, DecidableEq

/-- The wording of an error, with the number that systems give it. -/
def OpenError.message : OpenError → String
  | notFound name => "[Errno 2] No such file or directory: " ++ Text.quoted name
  | notDirectory name => "[Errno 20] Not a directory: " ++ Text.quoted name
  | isDirectory name => "[Errno 21] Is a directory: " ++ Text.quoted name

namespace FileTree

/-- Follow segments from a place in the tree. -/
def follow (t : FileTree) (name : String) : Path → List String → Except OpenError Path
  | p, [] => .ok p
  | p, segment :: rest =>
    if t.isDirectoryAt p then
      let q := p.step segment
      if (t.find? q).isSome then t.follow name q rest else .error (.notFound name)
    else .error (.notDirectory name)

/-- What a name leads to from a directory. -/
def locate (t : FileTree) (base : Path) (name : String) : Except OpenError Path :=
  if name = "" then .error (.notFound name)
  else t.follow name (if Path.isAbsoluteName name then [] else base) (segmentsOf name)

/-- The content of the file that a name leads to from a directory. -/
def openFile (t : FileTree) (base : Path) (name : String) : Except OpenError (List UInt8) :=
  (t.locate base name).bind fun p =>
    match t.contentAt? p with
    | some content => .ok content
    | none => .error (.isDirectory name)

end FileTree

end ManifestDeps
