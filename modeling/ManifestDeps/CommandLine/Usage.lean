/-
ManifestDeps.CommandLine.Usage — arguments that the program does not
accept, and what it says about them.
-/
import ManifestDeps.CommandLine.Help
import ManifestDeps.Text.Quoted

namespace ManifestDeps.CommandLine

/-- Why a path is not accepted. -/
inductive PathFault where
  | missing
  /-- A file stands where a directory should be. -/
  | isFile
  /-- A directory stands where a file should be. -/
  | isDirectory
  deriving Repr, DecidableEq

/-- Why a value is not accepted. -/
inductive ValueFault where
  | directory (name : String) (f : PathFault)
  | file (name : String) (f : PathFault)
  | notOutputFormat (word : String)
  | notInteger (word : String)
  deriving Repr, DecidableEq

/-- The wording of a fault of a path, behind what it should be. -/
def PathFault.message (kind name : String) : PathFault → String
  | missing => kind ++ " " ++ Text.quoted name ++ " does not exist."
  | isFile => kind ++ " " ++ Text.quoted name ++ " is a file."
  | isDirectory => kind ++ " " ++ Text.quoted name ++ " is a directory."

/-- The wording of a fault of a value. -/
def ValueFault.message : ValueFault → String
  | directory name f => f.message "Directory" name
  | file name f => f.message "File" name
  | notOutputFormat word =>
    Text.quoted word ++ " is not one of " ++
      ", ".intercalate (OutputFormat.all.map fun f => Text.quoted f.name) ++ "."
  | notInteger word => Text.quoted word ++ " is not a valid integer."

/-- What a value is given for. -/
inductive Parameter where
  | flag (f : Flag)
  | operand (name : String)
  deriving Repr, DecidableEq

/-- The name of a parameter in a message. -/
def Parameter.text : Parameter → String
  | flag f => " / ".intercalate (f.forms.map fun s => "'" ++ s ++ "'")
  | operand name => "'" ++ name ++ "'"

/-- Why arguments are not accepted. -/
inductive UsageFault where
  /-- There is no such option; some come close to it. -/
  | noSuchOption (name : String) (close : List String)
  /-- The value of an option is missing. -/
  | needsValue (form : String)
  /-- An option has a value that it does not take. -/
  | takesNoValue (form : String)
  | missingCommand
  /-- There is no such command; some come close to it. -/
  | noSuchCommand (name : String) (close : List String)
  | missingOperand (name : String)
  | extraOperands (values : List String)
  | invalidValue (p : Parameter) (f : ValueFault)
  deriving Repr, DecidableEq

/-- A message with the words that may have been meant. -/
def withGuesses (message : String) (kind : String) : List String → String
  | [] => message
  | [word] => message ++ " Did you mean " ++ Text.quoted word ++ "?"
  | ws =>
    message ++ " (Possible " ++ kind ++ ": " ++ ", ".intercalate (ws.map Text.quoted) ++ ")"

/-- The wording of a fault. -/
def UsageFault.message : UsageFault → String
  | noSuchOption name close =>
    withGuesses ("No such option " ++ Text.quoted name ++ ".") "options" close
  | needsValue form => "Option " ++ Text.quoted form ++ " requires an argument."
  | takesNoValue form => "Option " ++ Text.quoted form ++ " does not take a value."
  | missingCommand => "Missing command."
  | noSuchCommand name close =>
    withGuesses ("No such command " ++ Text.quoted name ++ ".") "commands" close
  | missingOperand name => "Missing argument '" ++ name ++ "'."
  | extraOperands values =>
    "Got unexpected extra argument" ++ (if values.length = 1 then "" else "s") ++ " (" ++
      " ".intercalate values ++ ")"
  | invalidValue p f => "Invalid value for " ++ p.text ++ ": " ++ f.message

/-- The usage of the scope is shown above a fault, unless the fault is about
the value of an option being there or not. -/
def UsageFault.showsUsage : UsageFault → Bool
  | needsValue _ => false
  | takesNoValue _ => false
  | _ => true

/-- Arguments that a scope does not accept. -/
structure UsageError where
  scope : Scope
  fault : UsageFault
  deriving Repr, DecidableEq

/-- What is said about arguments that are not accepted. -/
def UsageError.text (e : UsageError) : String :=
  let above := if e.fault.showsUsage then
      [e.scope.usage, "Try '" ++ e.scope.path ++ " --help' for help.", ""]
    else []
  textOfLines (above ++ ["Error: " ++ e.fault.message])

end ManifestDeps.CommandLine
