/-
ManifestDeps.Validation — checking data against a declared shape.

A check either gives the checked value or reports every fault with its
place, in the order in which the shape declares its parts. `Checked` is an
applicative functor that collects the faults of both sides, so a record is
checked field by field and none of its faults hides another one.
-/
import ManifestDeps.Json.Value

namespace ManifestDeps

open Json (Value)

/-- One step of a place inside structured data. -/
inductive PlaceStep where
  | key (name : String)
  | index (i : Nat)
  deriving Repr, DecidableEq

/-- A place inside structured data, from the outside in. -/
abbrev Place := List PlaceStep

/-- What is wrong with a value. -/
inductive ShapeFault where
  | notText
  | notMapping
  | notList
  /-- Not the mapping that the named kind of record is read from. -/
  | notRecord (kind : String)
  | notInteger
  | notIntegerText
  | hasFraction
  | tooLarge
  | notFinite
  | belowOne
  | notOutputFormat
  /-- Refused by a rule of the record, with its reason. -/
  | refused (reason : String)
  deriving Repr, DecidableEq

/-- The wording of a fault. -/
def ShapeFault.message : ShapeFault → String
  | notText => "Input should be a valid string"
  | notMapping => "Input should be a valid dictionary"
  | notList => "Input should be a valid list"
  | notRecord kind => "Input should be a valid dictionary or instance of " ++ kind
  | notInteger => "Input should be a valid integer"
  | notIntegerText => "Input should be a valid integer, unable to parse string as an integer"
  | hasFraction => "Input should be a valid integer, got a number with a fractional part"
  | tooLarge => "Unable to parse input string as an integer, exceeded maximum size"
  | notFinite => "Input should be a finite number"
  | belowOne => "Input should be greater than or equal to 1"
  | notOutputFormat => "Input should be 'table', 'json' or 'yaml'"
  | refused reason => "Value error, " ++ reason

/-- A fault with its place. -/
structure Located where
  fault : ShapeFault
  place : Place
  deriving Repr, DecidableEq

/-- Data of a kind that was refused, with all its faults. -/
structure Rejection where
  kind : String
  faults : List Located
  deriving Repr, DecidableEq

/-- The headline of a rejection. What is said below it, of each fault and of the
value that has it, is left to the library that checks values. -/
def Rejection.message (r : Rejection) : String :=
  toString r.faults.length ++ " validation error" ++ (if r.faults.length = 1 then "" else "s")
    ++ " for " ++ r.kind

/-- A checked value, or all faults found. -/
inductive Checked (α : Type) where
  | ok (a : α)
  | faults (found : List Located)

namespace Checked

variable {α β : Type}

/-- A single fault. -/
def fault (f : ShapeFault) (place : Place) : Checked α :=
  .faults [⟨f, place⟩]

/-- Apply a checked function to a checked value, collecting faults. -/
def apply (f : Checked (α → β)) (x : Checked α) : Checked β :=
  match f, x with
  | .ok g, .ok a => .ok (g a)
  | .ok _, .faults fs => .faults fs
  | .faults fs, .ok _ => .faults fs
  | .faults fs, .faults gs => .faults (fs ++ gs)

instance : Applicative Checked where
  pure := .ok
  seq f x := apply f (x ())

@[simp] theorem map_ok (f : α → β) (a : α) : f <$> Checked.ok a = .ok (f a) := rfl

@[simp] theorem map_faults (f : α → β) (fs : List Located) :
    f <$> (Checked.faults fs : Checked α) = .faults fs := rfl

@[simp] theorem ok_seq_ok (f : α → β) (a : α) : Checked.ok f <*> Checked.ok a = .ok (f a) := rfl

@[simp] theorem ok_seq_faults (f : α → β) (fs : List Located) :
    Checked.ok f <*> (Checked.faults fs : Checked α) = .faults fs := rfl

@[simp] theorem faults_seq_ok (fs : List Located) (a : α) :
    (Checked.faults fs : Checked (α → β)) <*> Checked.ok a = .faults fs := rfl

@[simp] theorem faults_seq_faults (fs gs : List Located) :
    (Checked.faults fs : Checked (α → β)) <*> (Checked.faults gs : Checked α) =
      .faults (fs ++ gs) := rfl

theorem map_eq_ok_iff {f : α → β} {x : Checked α} {b : β} :
    f <$> x = .ok b ↔ ∃ a, x = .ok a ∧ f a = b := by
  cases x <;> simp

/-- Both sides have to be without faults. -/
theorem seq_eq_ok_iff {f : Checked (α → β)} {x : Checked α} {b : β} :
    f <*> x = .ok b ↔ ∃ g a, f = .ok g ∧ x = .ok a ∧ g a = b := by
  cases f <;> cases x <;> simp

/-- The checked value, or a rejection of its kind. -/
def toExcept (kind : String) : Checked α → Except Rejection α
  | .ok a => .ok a
  | .faults fs => .error ⟨kind, fs⟩

end Checked

/-- A check of the value at a place. -/
abbrev Check (α : Type) := Place → Value → Checked α

namespace Check

variable {α : Type}

/-- Any value. -/
def any : Check Value := fun _ v => .ok v

/-- A text. -/
def text : Check String := fun place v =>
  match v with
  | .str s => .ok s
  | _ => .fault .notText place

/-- Any value, read as a switch that is on when something is there. -/
def switch : Check Bool := fun _ v => .ok v.isSet

/-- A null, or a value that passes the check. -/
def nullable (c : Check α) : Check (Option α) := fun place v =>
  match v with
  | .null => .ok none
  | v => some <$> c place v

/-- Every member of an object passes the check. -/
def members (c : Check α) (place : Place) : List (String × Value) → Checked (List (String × α))
  | [] => .ok []
  | (name, v) :: rest =>
    (fun a as => (name, a) :: as) <$> c (place ++ [.key name]) v <*> members c place rest

/-- An object whose members pass the check. -/
def table (c : Check α) : Check (List (String × α)) := fun place v =>
  match v with
  | .obj ms => members c place ms
  | _ => .fault .notMapping place

/-- A record of a kind, read from the members of an object. -/
def record (kind : String) (fields : Place → List (String × Value) → Checked α) : Check α :=
  fun place v =>
    match v with
    | .obj ms => fields place ms
    | _ => .fault (.notRecord kind) place

end Check

/-- A field of a record: the name it has in a manifest, and a second name
that counts where the first is missing. -/
structure FieldName where
  main : String
  second : String

/-- The member that a field is read from, with the name used for it. -/
def FieldName.find? (f : FieldName) (ms : List (String × Value)) : Option (String × Value) :=
  match ms.lookup f.main with
  | some v => some (f.main, v)
  | none => (ms.lookup f.second).map fun v => (f.second, v)

/-- Check a field that may be missing or null. -/
def Check.field {α : Type} (c : Check α) (f : FieldName) (place : Place)
    (ms : List (String × Value)) : Checked (Option α) :=
  match f.find? ms with
  | none => .ok none
  | some (name, v) => Check.nullable c (place ++ [.key name]) v

end ManifestDeps
