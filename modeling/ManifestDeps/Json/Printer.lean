/-
ManifestDeps.Json.Printer — writing a JSON value over several lines.

Items and members stand on lines of their own, indented by two spaces a
level; an empty array or object stays on one line. All characters outside
printable ASCII are escaped, those beyond U+FFFF as a surrogate pair.
-/
import ManifestDeps.Json.Value
import ManifestDeps.Text.Encoding

namespace ManifestDeps.Json

open ManifestDeps.Decimal ManifestDeps.Text

/-- The escape of a 16-bit unit. -/
def unitEscape (n : Nat) : List Char :=
  '\\' :: 'u' :: hexDigits 4 n

/-- The written form of a character inside a string. -/
def escapedChar (c : Char) : List Char :=
  if c = '"' then ['\\', '"']
  else if c = '\\' then ['\\', '\\']
  else if c = '\n' then ['\\', 'n']
  else if c = '\r' then ['\\', 'r']
  else if c = '\t' then ['\\', 't']
  else if c = '\x0c' then ['\\', 'f']
  else if c = '\x08' then ['\\', 'b']
  else if 0x20 ≤ c.toNat ∧ c.toNat < 0x7f then [c]
  else if c.toNat < 0x10000 then unitEscape c.toNat
  else
    let n := c.toNat - 0x10000
    unitEscape (0xd800 + n / 1024) ++ unitEscape (0xdc00 + n % 1024)

/-- A string between double quotes. -/
def stringChars (s : String) : List Char :=
  '"' :: s.toList.flatMap escapedChar ++ ['"']

/-- The written form of a number with a fraction. -/
def floatText : Binary64 → String
  | .nan => "NaN"
  | .infinite false => "Infinity"
  | .infinite true => "-Infinity"
  | x => x.text

/-- A new line, indented to a level. -/
def lineBreak (level : Nat) : List Char :=
  '\n' :: List.replicate (2 * level) ' '

mutual
/-- The written form of a value that starts at a level. -/
def printAt (level : Nat) : Value → List Char
  | .null => "null".toList
  | .bool true => "true".toList
  | .bool false => "false".toList
  | .int n => (toString n).toList
  | .float x => (floatText x).toList
  | .str s => stringChars s
  | .arr [] => ['[', ']']
  | .arr (v :: rest) =>
    '[' :: lineBreak (level + 1) ++ printAt (level + 1) v ++ printItems (level + 1) rest
      ++ lineBreak level ++ [']']
  | .obj [] => ['{', '}']
  | .obj ((name, v) :: rest) =>
    '{' :: lineBreak (level + 1) ++ stringChars name ++ [':', ' '] ++ printAt (level + 1) v
      ++ printMembers (level + 1) rest ++ lineBreak level ++ ['}']
termination_by structural v => v

/-- The items of an array behind the first. -/
def printItems (level : Nat) : List Value → List Char
  | [] => []
  | v :: rest => ',' :: lineBreak level ++ printAt level v ++ printItems level rest
termination_by structural vs => vs

/-- The members of an object behind the first. -/
def printMembers (level : Nat) : List (String × Value) → List Char
  | [] => []
  | (name, v) :: rest =>
    ',' :: lineBreak level ++ stringChars name ++ [':', ' '] ++ printAt level v
      ++ printMembers level rest
termination_by structural ms => ms
end

/-- The written form of a value. -/
def print (v : Value) : String :=
  String.ofList (printAt 0 v)

end ManifestDeps.Json
