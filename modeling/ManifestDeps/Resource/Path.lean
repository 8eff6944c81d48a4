/-
ManifestDeps.Resource.Path — absolute paths and walking along a name.

A path is the list of its segments, none of which is empty, `.` or `..`.
A name is walked segment by segment: from a base, or from the top when it
starts with a slash. Empty and `.` segments stay, `..` goes up, and the
top is its own parent.
-/
namespace ManifestDeps

/-- An absolute path, from the top down. -/
abbrev Path := List String

/-- The segments of a name between slashes, at least one. -/
def splitSlash : List Char → List (List Char)
  | [] => [[]]
  | c :: rest =>
    if c = '/' then [] :: splitSlash rest
    else
      match splitSlash rest with
      | [] => [[c]]
      | segment :: segments => (c :: segment) :: segments

/-- The segments of a name. -/
def segmentsOf (name : String) : List String :=
  (splitSlash name.toList).map String.ofList

namespace Path

/-- Go one segment on. -/
def step (p : Path) (segment : String) : Path :=
  if segment = "" ∨ segment = "." then p
  else if segment = ".." then p.dropLast
  else p ++ [segment]

/-- The name starts at the top. -/
def isAbsoluteName (name : String) : Bool :=
  name.toList.head? == some '/'

/-- Where walking along a name from a base ends. -/
def walk (base : Path) (name : String) : Path :=
  (segmentsOf name).foldl step (if isAbsoluteName name then [] else base)

/-- The path is the base or lies below it. -/
def isWithin (base p : Path) : Bool :=
  base.isPrefixOf p

/-- The text of a path. -/
def text (p : Path) : String :=
  "/" ++ "/".intercalate p

/-- The part of a path below a base, with slashes in between. -/
def relativeText (base p : Path) : String :=
  "/".intercalate (p.drop base.length)

end Path

end ManifestDeps
