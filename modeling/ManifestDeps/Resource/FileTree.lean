/-
ManifestDeps.Resource.FileTree — a directory tree, held in memory.

A tree is a file with its content, or a directory with named entries. No
symbolic links occur in it. Looking up a path goes down one segment at a
time.
-/
import ManifestDeps.Resource.Path

namespace ManifestDeps

/-- A file or a directory. -/
inductive FileTree where
  | file (content : List UInt8)
  | directory (entries : List (String × FileTree))
  deriving Inhabited

namespace FileTree

/-- What stands at a path below a tree. -/
def find? : FileTree → Path → Option FileTree
  | t, [] => some t
  | file _, _ :: _ => none
  | directory entries, segment :: rest =>
    (entries.lookup segment).bind fun t => t.find? rest

/-- The content of the file at a path, if there is a file. -/
def contentAt? (t : FileTree) (p : Path) : Option (List UInt8) :=
  match t.find? p with
  | some (file content) => some content
  | _ => none

/-- There is a file at a path. -/
def isFileAt (t : FileTree) (p : Path) : Bool :=
  (t.contentAt? p).isSome

/-- There is a directory at a path. -/
def isDirectoryAt (t : FileTree) (p : Path) : Bool :=
  match t.find? p with
  | some (directory _) => true
  | _ => false

/-- Put something at a path, with the directories above it as needed. What
stood there, and any file on the way, is replaced. -/
def put (t : FileTree) (p : Path) (node : FileTree) : FileTree :=
  match p with
  | [] => node
  | segment :: rest =>
    let entries := match t with
      | directory entries => entries
      | file _ => []
    let child := (entries.lookup segment).getD (directory [])
    directory (setEntry entries segment (child.put rest node))
where
  /-- Set the entry of a name, in its place if it is there. -/
  setEntry (entries : List (String × FileTree)) (name : String) (t : FileTree) :
      List (String × FileTree) :=
    match entries with
    | [] => [(name, t)]
    | (k, u) :: rest => if k = name then (k, t) :: rest else (k, u) :: setEntry rest name t

/-- A directory at a path, unless one is there. -/
def makeDirectory (t : FileTree) (p : Path) : FileTree :=
  if t.isDirectoryAt p then t else t.put p (directory [])

end FileTree

end ManifestDeps
