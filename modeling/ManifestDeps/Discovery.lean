/-
ManifestDeps.Discovery — finding the components below a directory.

A component is a file named `Component.js`. Directories with an ignored
name or a name that starts with a point are not searched; the name of the
directory that the search starts from does not matter. Components are
listed by their paths below that directory, in order by code point.
-/
import ManifestDeps.ModuleName
import ManifestDeps.Resource.FileTree

namespace ManifestDeps

/-- A directory that is not searched. -/
def isSkippedDirectory (ignored : List String) (name : String) : Bool :=
  ignored.contains name || name.toList.head? == some '.'

/-- The tree is a file. -/
def FileTree.isFile : FileTree → Bool
  | .file _ => true
  | .directory _ => false

mutual
/-- The paths of the components below a tree. -/
def FileTree.componentPaths (ignored : List String) : FileTree → List Path
  | .file _ => []
  | .directory entries => FileTree.entryPaths ignored entries
termination_by structural t => t

/-- The paths of the components among the entries of a directory. -/
def FileTree.entryPaths (ignored : List String) : List (String × FileTree) → List Path
  | [] => []
  | (name, t) :: rest =>
    let below := t.componentPaths ignored
    let own :=
      if t.isFile then if name = ModuleName.componentFilename then [[name]] else []
      else if isSkippedDirectory ignored name then []
      else below.map (name :: ·)
    own ++ FileTree.entryPaths ignored rest
termination_by structural es => es
end

/-- Why there is nothing to search. -/
inductive DiscoveryError where
  | missing (p : Path)
  | notDirectory (p : Path)
  /-- The name of the directory holds a NUL character. -/
  | nulInPath
  deriving Repr, DecidableEq

/-- The wording of an error. -/
def DiscoveryError.message : DiscoveryError → String
  | missing p => "Path does not exist: " ++ p.text
  | notDirectory p => "Path is not a directory: " ++ p.text
  | nulInPath => "embedded null byte"

/-- A component that was found. -/
structure FoundComponent where
  /-- Where its file stands. -/
  path : Path
  /-- Its module path below the directory that was searched. -/
  name : String
  deriving Repr, DecidableEq

/-- A descriptor stands beside the file of the component. -/
def FoundComponent.hasDescriptor (t : FileTree) (c : FoundComponent) : Bool :=
  t.isFileAt (c.path.dropLast ++ [ModuleName.descriptorFilename])

/-- The components in a tree that stands at a path, in order of their
names. -/
def FileTree.components (ignored : List String) (root : Path) (t : FileTree) :
    List FoundComponent :=
  let found : List FoundComponent := (t.componentPaths ignored).map fun p =>
    ⟨root ++ p, Path.relativeText root (root ++ p)⟩
  found.mergeSort fun a b => decide (a.name ≤ b.name)

/-- The components found below a directory. -/
structure Discovery where
  root : Path
  components : List FoundComponent
  deriving Repr, DecidableEq

namespace Discovery

/-- The names of the components, in order. -/
def names (d : Discovery) : List String :=
  d.components.map FoundComponent.name

/-- A descriptor stands beside the component of a name. -/
def hasDescriptor (t : FileTree) (d : Discovery) (name : String) : Bool :=
  d.components.any fun c => c.name == name && c.hasDescriptor t

end Discovery

/-- Search the directory that a name leads to. -/
def discover (t : FileTree) (base : Path) (name : String) (ignored : List String) :
    Except DiscoveryError Discovery :=
  if name.toList.contains '\x00' then .error .nulInPath
  else
    let root := Path.walk base name
    match t.find? root with
    | none => .error (.missing root)
    | some (.file _) => .error (.notDirectory root)
    | some (.directory entries) =>
      .ok ⟨root, (FileTree.directory entries).components ignored root⟩

end ManifestDeps
