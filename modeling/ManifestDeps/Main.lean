/-
ManifestDeps.Main — the program.

It copies the part of the file system that the arguments name into a tree
in memory, runs on that tree, and writes what the run leaves behind. All
decisions are made by the run.
-/
import ManifestDeps.CommandLine.Run

namespace ManifestDeps.Main

open CommandLine

/-- The bytes of a file, none if it cannot be read. -/
def fileBytes (entry : IO.FS.DirEntry) : IO (List UInt8) := do
  try
    return (← IO.FS.readBinFile entry.path).toList
  catch _ => return []

/-- Copy a file or a directory. Links to directories are not followed, and
of the files only descriptors are read. -/
partial def copy (entry : IO.FS.DirEntry) : IO FileTree := do
  if ← entry.path.isDir then
    let mut entries := #[]
    for child in ← entry.path.readDir do
      let isLink := (← child.path.symlinkMetadata).type == .symlink
      if !(isLink && (← child.path.isDir)) then
        entries := entries.push (child.fileName, ← copy child)
    return .directory entries.toList
  else if entry.fileName = ModuleName.descriptorFilename then
    return .file (← fileBytes entry)
  else
    return .file []

/-- Copy what stands on the way along a name, and the file at its end. -/
def copyAlong (base : Path) (name : String) (tree : FileTree) : IO FileTree := do
  let here ← IO.currentDir
  let mut place : Path := if Path.isAbsoluteName name then [] else base
  let mut tree := tree.makeDirectory place
  for segment in segmentsOf name do
    place := Path.step place segment
    let entry : IO.FS.DirEntry := ⟨here, Path.text place⟩
    if ← entry.path.isDir then tree := tree.makeDirectory place
    else if ← entry.path.pathExists then tree := tree.put place (.file (← fileBytes entry))
  return tree

/-- Copy what a command is about: all below its root, or the descriptor of
its only component. -/
def copyJob (base : Path) (c : Command) (operands : List String) (tree : FileTree) :
    IO FileTree := do
  match c, operands with
  | .analyze, rootName :: _ =>
    let here ← IO.currentDir
    let root := Path.walk base rootName
    let tree ← copyAlong base rootName tree
    let entry : IO.FS.DirEntry := ⟨here, Path.text root⟩
    if ← entry.path.isDir then return tree.put root (← copy entry)
    return tree
  | .single, rootName :: component :: _ =>
    let tree ← copyAlong base rootName tree
    copyAlong (Path.walk base rootName) (ModuleName.descriptorOf component) tree
  | _, rootName :: _ => copyAlong base rootName tree
  | _, [] => return tree

/-- The variables that settings may come from. -/
def readEnvironment : IO Environment := do
  let names := [SettingName.logLevel, .maxConcurrency, .outputFormat].filterMap (·.inEnvironment)
  let mut env := []
  for name in SettingName.configVariable :: names do
    if let some value ← IO.getEnv name then env := (name, value) :: env
  return env

/-- Copy what the arguments name. -/
def readSurroundings (args : List String) : IO Surroundings := do
  let environment ← readEnvironment
  let directory := Path.walk [] (toString (← IO.currentDir))
  let mut tree := (FileTree.directory []).makeDirectory directory
  if let .ok (.command c r) := Request.ofArguments args then
    tree ← copyJob directory c r.operands tree
    let inEnvironment := environment.lookup SettingName.configVariable
    for file in (r.value? .config).toList ++ inEnvironment.toList do
      tree ← copyAlong directory file tree
  return { tree, directory, environment }

/-- A line of the log as it is written. -/
def logText (e : LogEntry) : String :=
  e.level.name ++ " [" ++ e.source ++ "] " ++ e.message

end ManifestDeps.Main

open ManifestDeps ManifestDeps.CommandLine in
/-- Run the program and give its exit code. -/
def main (args : List String) : IO UInt32 := do
  let run := CommandLine.run (← Main.readSurroundings args) args
  for entry in run.log do
    IO.eprintln (Main.logText entry)
  IO.print run.out
  IO.eprint run.err
  if let .crashed c := run.ending then
    IO.eprintln c.message
  return run.ending.exitCode.toUInt32
