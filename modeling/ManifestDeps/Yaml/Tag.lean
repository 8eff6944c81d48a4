/-
ManifestDeps.Yaml.Tag — the tags of the core kinds of values, and the tag
that a plain scalar has by its form.

Plain scalars are null, switches, floating-point numbers, integers, dates
and times, the merge key `<<` and the default key `=`; all others are
texts. The rules are those of YAML 1.1: `yes` and `on` are switches, a
leading zero makes an integer octal, colons separate digits of base 60,
and an exponent needs a sign.
-/
import ManifestDeps.Json.Reader

namespace ManifestDeps.Yaml

open Json (isDigit)

namespace Tag

/-- The beginning of all core tags. -/
def core : String := "tag:yaml.org,2002:"

def null : String := core ++ "null"
def bool : String := core ++ "bool"
def int : String := core ++ "int"
def float : String := core ++ "float"
def str : String := core ++ "str"
def binary : String := core ++ "binary"
def timestamp : String := core ++ "timestamp"
def merge : String := core ++ "merge"
def default : String := core ++ "value"
def seq : String := core ++ "seq"
def map : String := core ++ "map"
def set : String := core ++ "set"
def omap : String := core ++ "omap"
def pairs : String := core ++ "pairs"

end Tag

/-! ## The forms of plain scalars -/

/-- The words for null. -/
def nullWords : List String := ["", "~", "null", "Null", "NULL"]

/-- The words for true. -/
def trueWords : List String :=
  ["yes", "Yes", "YES", "true", "True", "TRUE", "on", "On", "ON"]

/-- The words for false. -/
def falseWords : List String :=
  ["no", "No", "NO", "false", "False", "FALSE", "off", "Off", "OFF"]

/-- Drop a sign. -/
def unsigned : List Char → List Char
  | '+' :: rest => rest
  | '-' :: rest => rest
  | cs => cs

/-- A digit or an underscore. -/
def isSpacedDigit (c : Char) : Bool :=
  isDigit c || c == '_'

/-- Further digits of base 60, each behind a colon; gives what follows. -/
def skipSixties (n : Nat) : Nat → List Char → Nat × List Char
  | 0, cs => (n, cs)
  | rounds + 1, cs =>
    match cs with
    | ':' :: a :: b :: rest =>
      if isDigit a && isDigit b && a ≤ '5' then skipSixties (n + 1) rounds rest
      else if isDigit a then skipSixties (n + 1) rounds (b :: rest)
      else (n, cs)
    | [':', a] => if isDigit a then (n + 1, []) else (n, cs)
    | cs => (n, cs)

/-- The form of an integer. -/
def isIntForm (cs : List Char) : Bool :=
  match unsigned cs with
  | '0' :: 'b' :: rest => !rest.isEmpty && rest.all fun c => c == '0' || c == '1' || c == '_'
  | '0' :: 'x' :: rest =>
    !rest.isEmpty && rest.all fun c => (Json.hexValue? c).isSome || c == '_'
  | ['0'] => true
  | '0' :: rest => rest.all fun c => ('0' ≤ c && c ≤ '7') || c == '_'
  | c :: rest =>
    isDigit c &&
      match rest.dropWhile isSpacedDigit with
      | [] => true
      | tail => (skipSixties 0 tail.length tail).2.isEmpty
  | [] => false

/-- An exponent with its sign, or nothing. -/
def isExponentOrEnd : List Char → Bool
  | [] => true
  | e :: s :: d :: rest =>
    (e == 'e' || e == 'E') && (s == '+' || s == '-') && isDigit d && rest.all isDigit
  | _ => false

/-- The form of a floating-point number. -/
def isFloatForm (cs : List Char) : Bool :=
  let body := unsigned cs
  let infinite := [".inf", ".Inf", ".INF"].contains (String.ofList body)
  let nan := [".nan", ".NaN", ".NAN"].contains (String.ofList cs)
  let pointFirst := match cs with
    | '.' :: d :: rest => isDigit d && isExponentOrEnd (rest.dropWhile isSpacedDigit)
    | _ => false
  let digitFirst := match body with
    | d :: rest =>
      isDigit d &&
        match rest.dropWhile isSpacedDigit with
        | '.' :: tail => isExponentOrEnd (tail.dropWhile isSpacedDigit)
        | tail =>
          match skipSixties 0 tail.length tail with
          | (_ + 1, '.' :: last) => last.all isSpacedDigit
          | _ => false
    | [] => false
  infinite || nan || pointFirst || digitFirst

/-- The parts of a date, with a time perhaps. -/
structure Timestamp where
  year : Nat
  month : Nat
  day : Nat
  /-- Hour, minute, second, and the digits of the fraction. -/
  time : Option (Nat × Nat × Nat × List Char) := none
  /-- Minutes east of Greenwich, if an offset is given. -/
  offset : Option Int := none
  deriving Repr, DecidableEq

/-- Between `least` and `most` digits in front. -/
def takeDigits (least most : Nat) (cs : List Char) : Option (Nat × List Char) :=
  let ds := (cs.take most).takeWhile isDigit
  if ds.length < least then none else some (Json.digitsValue ds, cs.drop ds.length)

/-- Drop a character that must be in front. -/
def expect (c : Char) : List Char → Option (List Char)
  | d :: rest => if c = d then some rest else none
  | [] => none

/-- The offset at the end of a time; `some none` when there is none. -/
def offset? (cs : List Char) : Option (Option Int) :=
  match cs.dropWhile fun c => c == ' ' || c == '\t' with
  | [] => if cs.isEmpty then some none else none
  | ['Z'] => some (some 0)
  | sign :: rest =>
    if sign == '+' || sign == '-' then do
      let (hours, rest) ← takeDigits 1 2 rest
      let minutes ← match rest with
        | [] => some 0
        | rest => do
          let rest ← expect ':' rest
          let (minutes, rest) ← takeDigits 2 2 rest
          if rest.isEmpty then some minutes else none
      let n : Int := hours * 60 + minutes
      some (some (if sign == '-' then -n else n))
    else none

/-- The parts of a date or of a date with a time. -/
def timestamp? (cs : List Char) : Option Timestamp := do
  let (year, rest) ← takeDigits 4 4 cs
  let rest ← expect '-' rest
  let (month, rest) ← takeDigits 1 2 rest
  let rest ← expect '-' rest
  let (day, rest) ← takeDigits 1 2 rest
  match rest with
  | [] => some { year, month, day }
  | c :: tail =>
    let rest ←
      if c == 'T' || c == 't' then some tail
      else if c == ' ' || c == '\t' then some (tail.dropWhile fun c => c == ' ' || c == '\t')
      else none
    let (hour, rest) ← takeDigits 1 2 rest
    let rest ← expect ':' rest
    let (minute, rest) ← takeDigits 2 2 rest
    let rest ← expect ':' rest
    let (second, rest) ← takeDigits 2 2 rest
    let (fraction, rest) := match rest with
      | '.' :: rest => rest.span isDigit
      | rest => ([], rest)
    let offset ← offset? rest
    some { year, month, day, time := some (hour, minute, second, fraction), offset }

/-- The form of a date, which has two digits for month and day, or of a
date with a time. -/
def isTimestampForm (cs : List Char) : Bool :=
  match timestamp? cs with
  | some t => t.time.isSome || cs.length == 10
  | none => false

/-- The tag of a plain scalar. -/
def Tag.ofPlain (text : String) : String :=
  let cs := text.toList
  if trueWords.contains text || falseWords.contains text then Tag.bool
  else if isFloatForm cs then Tag.float
  else if isIntForm cs then Tag.int
  else if text = "<<" then Tag.merge
  else if nullWords.contains text then Tag.null
  else if isTimestampForm cs then Tag.timestamp
  else if text = "=" then Tag.default
  else Tag.str

end ManifestDeps.Yaml
