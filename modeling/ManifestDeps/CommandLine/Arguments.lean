/-
ManifestDeps.CommandLine.Arguments — telling options from operands.

An option is written `--name`, or `-n` if it has a short form; its value is
the next argument, or stands behind an equals sign or directly behind the
short form. Behind `--` there are operands only. Once an operand was read,
the program takes no more options; a command does.
-/
import ManifestDeps.CommandLine.Usage
import ManifestDeps.Text.Similarity

namespace ManifestDeps.CommandLine

/-- Options with their values, in order, and operands. -/
structure ReadArguments where
  flags : List (Flag × String) := []
  operands : List String := []
  deriving Repr, DecidableEq

namespace ReadArguments

/-- An option in front of what was read. -/
def addFlag (r : ReadArguments) (f : Flag) (value : String) : ReadArguments :=
  { r with flags := (f, value) :: r.flags }

/-- An operand in front of what was read. -/
def addOperand (r : ReadArguments) (s : String) : ReadArguments :=
  { r with operands := s :: r.operands }

/-- The value of an option: the last one given. -/
def value? (r : ReadArguments) (f : Flag) : Option String :=
  (r.flags.filter (·.1 == f)).getLast?.map Prod.snd

/-- The options that were given, in order of their first occurrence. -/
def given (r : ReadArguments) : List Flag :=
  (r.flags.map Prod.fst).eraseDups

end ReadArguments

/-- How an argument names an option. -/
inductive OptionForm where
  | operand
  /-- A name, with the value that is attached to it. -/
  | option (f : Flag) (form : String) (attached : Option String)
  | unknown (fault : UsageFault)

/-- The name in an argument in front of an equals sign. -/
def optionName (arg : List Char) : List Char :=
  arg.takeWhile (· != '=')

/-- The value in an argument behind an equals sign. -/
def optionValue? (arg : List Char) : Option String :=
  match arg.dropWhile (· != '=') with
  | _ :: value => some (String.ofList value)
  | [] => none

/-- An option in its short form, with what follows it directly. -/
def shortForm (flags : List Flag) (letter : Char) (rest : List Char) : OptionForm :=
  let form := String.ofList ['-', letter]
  match flags.find? fun f => f.short? == some form with
  | some f => .option f form (if rest.isEmpty then none else some (String.ofList rest))
  | none => .unknown (.noSuchOption form [])

/-- How an argument names an option of a scope. -/
def optionForm (flags : List Flag) (arg : String) : OptionForm :=
  match arg.toList with
  | '-' :: c :: rest =>
    let name := String.ofList (optionName arg.toList)
    match flags.find? fun f => f.long == name with
    | some f => .option f name (optionValue? arg.toList)
    | none =>
      if c = '-' then .unknown (.noSuchOption name (Text.closeWords name (flags.map Flag.long)))
      else shortForm flags c rest
  | _ => .operand

/-- Read arguments. -/
def readArguments (flags : List Flag) (mixesOptions : Bool) :
    List String → Except UsageFault ReadArguments
  | [] => .ok {}
  | arg :: rest =>
    if arg = "--" then .ok { operands := rest }
    else
      match optionForm flags arg with
      | .operand =>
        if mixesOptions then (readArguments flags mixesOptions rest).map (·.addOperand arg)
        else .ok { operands := arg :: rest }
      | .unknown fault => .error fault
      | .option f form attached =>
        if f.takesValue then
          match attached, rest with
          | some value, rest => (readArguments flags mixesOptions rest).map (·.addFlag f value)
          | none, value :: rest => (readArguments flags mixesOptions rest).map (·.addFlag f value)
          | none, [] => .error (.needsValue form)
        else if attached.isSome then .error (.takesNoValue form)
        else (readArguments flags mixesOptions rest).map (·.addFlag f "")

/-! ## What is asked for -/

/-- What the program is asked to do. -/
inductive Request where
  | help (s : Scope)
  | version
  /-- Nothing was asked for, which shows the help text as an error. -/
  | nothing
  | command (c : Command) (arguments : ReadArguments)
  deriving Repr, DecidableEq

/-- A fault in arguments of a scope. -/
def inScope {α : Type} (s : Scope) : Except UsageFault α → Except UsageError α
  | .ok a => .ok a
  | .error f => .error ⟨s, f⟩

/-- The arguments of a scope. -/
def Scope.read (s : Scope) (args : List String) : Except UsageError ReadArguments :=
  inScope s (readArguments s.flags s.mixesOptions args)

/-- What the options of the program ask for: the first one counts. -/
def programRequest? (r : ReadArguments) : Option Request :=
  match r.given with
  | .version :: _ => some .version
  | .help :: _ => some (.help .program)
  | _ => none

/-- An operand that looks like an option. -/
def looksLikeOption (s : String) : Bool :=
  match s.toList with
  | '-' :: _ :: _ => true
  | _ => false

/-- What an unknown command asks for: it may be an option behind `--`. -/
def unknownCommand (name : String) (args : List String) : Except UsageError Request := do
  if looksLikeOption name then
    if let some r := programRequest? (← Scope.program.read args) then return r
  .error ⟨.program, .noSuchCommand name (Text.closeWords name (Command.all.map Command.name))⟩

/-- What arguments ask for. -/
def Request.ofArguments (args : List String) : Except UsageError Request := do
  if args.isEmpty then return .nothing
  let r ← Scope.program.read args
  if let some request := programRequest? r then return request
  match r.operands with
  | [] => .error ⟨.program, .missingCommand⟩
  | name :: rest =>
    match Command.ofName? name with
    | none => unknownCommand name r.operands
    | some c =>
      let arguments ← (Scope.command c).read rest
      if arguments.given.contains .help then return .help (.command c)
      return .command c arguments

end ManifestDeps.CommandLine
