/-
ManifestDeps.Resource.Pool — finding resources by their module paths.

A pool answers a name with a resource or a failure. There are pools over
a table in memory and over a directory; in a directory a name that leads
outside of it finds nothing, even where there is a file.
-/
import ManifestDeps.Failure
import ManifestDeps.Resource.FileTree

namespace ManifestDeps

/-- A resource that was found. -/
structure Resource where
  name : String
  /-- The path of its file, if it comes from a directory. -/
  path : Option Path := none
  /-- Its bytes, or why they cannot be read. -/
  content : Except Failure (List UInt8)

namespace Resource

/-- The text of a resource in UTF-8. -/
def text (r : Resource) : Except Failure String :=
  r.content.bind fun bytes =>
    match Text.decodeUtf8 bytes with
    | .ok cs => .ok (String.ofList cs)
    | .error e => .error (.encoding e)

/-- A short description for people. -/
def describe (r : Resource) : String :=
  match r.path with
  | none => "InMemoryResource(" ++ Text.quoted r.name ++ ")"
  | some p => "FileSystemResource(" ++ Text.quoted r.name ++ ", " ++ Text.quoted p.text ++ ")"

end Resource

/-- A pool of resources. -/
structure Pool where
  /-- The resource of a name, or why there is none. -/
  find : String → Except Failure Resource

namespace Pool

/-- The pool over a table of contents in memory. -/
def ofTable (files : List (String × Content)) : Pool where
  find name :=
    match files.lookup name with
    | some content => .ok { name := name, content := .ok content.toBytes }
    | none => .error (.resourceNotFound name)

/-- Where a name leads from a root, unless it leads outside of it. -/
def resolve (root : Path) (name : String) : Except Failure Path :=
  if name.toList.contains '\x00' then .error .nulInPath
  else
    let p := Path.walk root name
    if root.isWithin p then .ok p else .error (.resourceNotFound name)

/-- The pool over the directory at `root` in a tree. -/
def ofDirectory (tree : FileTree) (root : Path) : Pool where
  find name :=
    (resolve root name).bind fun p =>
      match tree.contentAt? p with
      | some content => .ok { name := name, path := some p, content := .ok content }
      | none => .error (.resourceNotFound name)

end Pool

end ManifestDeps
