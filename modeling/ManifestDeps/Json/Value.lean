/-
ManifestDeps.Json.Value — JSON values, and their text inside a message.

An object is the list of its members in order, with distinct names when it
comes from the reader. Integers and floating-point numbers are told apart,
as the written number has a fraction or exponent or not.
-/
import ManifestDeps.Decimal.Shortest
import ManifestDeps.Text.Quoted

namespace ManifestDeps.Json

open ManifestDeps.Decimal ManifestDeps.Text

/-- Most digits of an integer that is read or written in decimal. -/
def maxDigits : Nat := 4300

/-- The least number that has too many digits. -/
def leastUnwritable : Nat := Nat.pow 10 maxDigits

/-- What is said of an integer that has too many digits to be written. -/
def unwritableInteger : String :=
  "Exceeds the limit (" ++ toString maxDigits ++ " digits) for integer string conversion; " ++
    "use sys.set_int_max_str_digits() to increase the limit"

/-- A JSON value. -/
inductive Value where
  | null
  | bool (b : Bool)
  | int (n : Int)
  | float (x : Binary64)
  | str (s : String)
  | arr (items : List Value)
  | obj (members : List (String × Value))
  deriving Repr, Inhabited

namespace Value

mutual
/-- Equality of values is decidable. -/
def decEq : (a b : Value) → Decidable (a = b)
  | .null, .null => isTrue rfl
  | .bool a, .bool b =>
    if h : a = b then isTrue (h ▸ rfl) else isFalse (fun e => h (by cases e; rfl))
  | .int a, .int b =>
    if h : a = b then isTrue (h ▸ rfl) else isFalse (fun e => h (by cases e; rfl))
  | .float a, .float b =>
    if h : a = b then isTrue (h ▸ rfl) else isFalse (fun e => h (by cases e; rfl))
  | .str a, .str b =>
    if h : a = b then isTrue (h ▸ rfl) else isFalse (fun e => h (by cases e; rfl))
  | .arr xs, .arr ys =>
    match decEqItems xs ys with
    | isTrue h => isTrue (h ▸ rfl)
    | isFalse h => isFalse (fun e => h (by cases e; rfl))
  | .obj xs, .obj ys =>
    match decEqMembers xs ys with
    | isTrue h => isTrue (h ▸ rfl)
    | isFalse h => isFalse (fun e => h (by cases e; rfl))
  | .null, .bool _ | .null, .int _ | .null, .float _ | .null, .str _ | .null, .arr _
  | .null, .obj _ => isFalse nofun
  | .bool _, .null | .bool _, .int _ | .bool _, .float _ | .bool _, .str _ | .bool _, .arr _
  | .bool _, .obj _ => isFalse nofun
  | .int _, .null | .int _, .bool _ | .int _, .float _ | .int _, .str _ | .int _, .arr _
  | .int _, .obj _ => isFalse nofun
  | .float _, .null | .float _, .bool _ | .float _, .int _ | .float _, .str _
  | .float _, .arr _ | .float _, .obj _ => isFalse nofun
  | .str _, .null | .str _, .bool _ | .str _, .int _ | .str _, .float _ | .str _, .arr _
  | .str _, .obj _ => isFalse nofun
  | .arr _, .null | .arr _, .bool _ | .arr _, .int _ | .arr _, .float _ | .arr _, .str _
  | .arr _, .obj _ => isFalse nofun
  | .obj _, .null | .obj _, .bool _ | .obj _, .int _ | .obj _, .float _ | .obj _, .str _
  | .obj _, .arr _ => isFalse nofun

/-- Equality of lists of values is decidable. -/
def decEqItems : (a b : List Value) → Decidable (a = b)
  | [], [] => isTrue rfl
  | x :: xs, y :: ys =>
    match decEq x y, decEqItems xs ys with
    | isTrue h, isTrue h' => isTrue (h ▸ h' ▸ rfl)
    | isFalse h, _ => isFalse (fun e => h (by cases e; rfl))
    | _, isFalse h => isFalse (fun e => h (by cases e; rfl))
  | [], _ :: _ | _ :: _, [] => isFalse nofun

/-- Equality of lists of members is decidable. -/
def decEqMembers : (a b : List (String × Value)) → Decidable (a = b)
  | [], [] => isTrue rfl
  | (k, x) :: xs, (l, y) :: ys =>
    if hk : k = l then
      match decEq x y, decEqMembers xs ys with
      | isTrue h, isTrue h' => isTrue (by rw [hk, h, h'])
      | isFalse h, _ => isFalse (fun e => h (by cases e; rfl))
      | _, isFalse h => isFalse (fun e => h (by cases e; rfl))
    else isFalse (fun e => hk (by cases e; rfl))
  | [], _ :: _ | _ :: _, [] => isFalse nofun
end

instance : DecidableEq Value := decEq

/-- Something is there: neither null, nor false, nor zero, nor an empty
text, array or object. -/
def isSet : Value → Bool
  | .null => false
  | .bool b => b
  | .int n => n != 0
  | .float x => !x.isZero
  | .str s => s != ""
  | .arr items => !items.isEmpty
  | .obj members => !members.isEmpty

mutual
/-- The written form of a value inside another one. -/
def literal : Value → String
  | .null => "None"
  | .bool true => "True"
  | .bool false => "False"
  | .int n => toString n
  | .float x => x.text
  | .str s => quoted s
  | .arr items => "[" ++ ", ".intercalate (literals items) ++ "]"
  | .obj members => "\x7b" ++ ", ".intercalate (memberLiterals members) ++ "\x7d"
termination_by structural v => v

/-- The written forms of the items of an array. -/
def literals : List Value → List String
  | [] => []
  | v :: rest => v.literal :: literals rest
termination_by structural vs => vs

/-- The written forms of the members of an object. -/
def memberLiterals : List (String × Value) → List String
  | [] => []
  | (name, v) :: rest => (quoted name ++ ": " ++ v.literal) :: memberLiterals rest
termination_by structural ms => ms
end

/-- The text of a value in a message: a text stands for itself, everything
else in its written form. -/
def text : Value → String
  | .str s => s
  | v => v.literal

mutual
/-- The written form can be made: no integer in it has too many digits. -/
def isShowable : Value → Bool
  | .int n => n.natAbs < leastUnwritable
  | .arr items => areShowable items
  | .obj members => membersShowable members
  | .null | .bool _ | .float _ | .str _ => true
termination_by structural v => v

/-- The written forms of the items of an array can be made. -/
def areShowable : List Value → Bool
  | [] => true
  | v :: rest => v.isShowable && areShowable rest
termination_by structural vs => vs

/-- The written forms of the members of an object can be made. -/
def membersShowable : List (String × Value) → Bool
  | [] => true
  | (_, v) :: rest => v.isShowable && membersShowable rest
termination_by structural ms => ms
end

theorem areShowable_eq_all (items : List Value) : areShowable items = items.all isShowable := by
  induction items with
  | nil => rfl
  | cons v rest ih => rw [areShowable, ih, List.all_cons]

theorem membersShowable_eq_all (members : List (String × Value)) :
    membersShowable members = members.all (·.2.isShowable) := by
  induction members with
  | nil => rfl
  | cons m rest ih => rw [membersShowable, ih, List.all_cons]

end Value

/-- Set the value of a name: in its place if the name is there, else at
the end. -/
def setMember (members : List (String × Value)) (name : String) (v : Value) :
    List (String × Value) :=
  match members with
  | [] => [(name, v)]
  | (k, w) :: rest => if k = name then (k, v) :: rest else (k, w) :: setMember rest name v

end ManifestDeps.Json
