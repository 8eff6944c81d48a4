/-
ManifestDeps.ModuleName — dotted names and module paths.

Code refers to a module by a dotted name (`sap.m.Button`), while its file
has a path with slashes (`sap/m/Button.js`). The package of a path is what
stands before the last slash, and the descriptor of a component is the
`manifest.json` in the component's package.
-/
import ManifestDeps.Text.CaseMap

namespace ManifestDeps.ModuleName

/-- Extension of a module without a suffix of its own. -/
def defaultExtension : String := ".js"

/-- File name of a component. -/
def componentFilename : String := "Component.js"

/-- File name of a component's descriptor. -/
def descriptorFilename : String := "manifest.json"

/-- The framework's own base class of all components, which has no
descriptor. -/
def baseComponent : String := "sap/ui/core/Component.js"

/-- A dotted name with its dots turned into slashes. -/
def slashed (name : String) : String :=
  name.map fun c => if c = '.' then '/' else c

/-- The path of a dotted name with a suffix; an empty suffix counts as
none, and then the default extension is used. -/
def ofDotted (name : String) (suffix : Option String) : String :=
  slashed name ++ match suffix with
    | some s => if s = "" then defaultExtension else s
    | none => defaultExtension

/-- The suffix of a view module, such as `.view.xml` for the type `XML`. -/
def viewSuffix (viewType : String) : String :=
  ".view." ++ Text.lower viewType

/-- The path of a class that is named by its dotted name or already by a
path, which holds a slash. -/
def ofClass (name : String) : String :=
  if name.toList.contains '/' then name else ofDotted name none

/-- The part of a path before its last slash; empty without a slash. -/
def packageOf (path : String) : String :=
  String.ofList ((path.toList.reverse.dropWhile (· != '/')).drop 1).reverse

/-- The path of another file in the same package. -/
def withFilename (path filename : String) : String :=
  let package := packageOf path
  if package = "" then filename else package ++ "/" ++ filename

/-- The path of the descriptor that belongs to a component. -/
def descriptorOf (component : String) : String :=
  withFilename component descriptorFilename

/-- The component is the framework's base class. -/
def isBaseComponent (component : String) : Bool :=
  component == baseComponent

end ManifestDeps.ModuleName
