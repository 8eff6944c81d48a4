/-
ManifestDeps.Yaml.Scalar — the values that scalars stand for.

The tag of a scalar says how its text is read. Numbers are read as the
programs of this format do: with digits of all scripts and blanks around
them, in base 2, 8, 10, 16 or 60, and floating-point numbers also as words.
A text that stands for nothing of its tag is a failure, each kind with a
reason of its own.
-/
import ManifestDeps.Text.Blank
import ManifestDeps.Text.CaseMap
import ManifestDeps.Text.DecimalDigit
import ManifestDeps.Yaml.Cursor
import ManifestDeps.Yaml.Value

namespace ManifestDeps.Yaml

open Decimal (Binary64)

/-! ## Integers -/

/-- The sign of a number, and what follows it. -/
def splitSign : List Char → Bool × List Char
  | '-' :: rest => (true, rest)
  | '+' :: rest => (false, rest)
  | cs => (false, cs)

/-- The text that a number is read from: without blanks around it, and with
digits of all scripts as those between `0` and `9`. The controls that
separate records are blanks only next to a character beyond ASCII. -/
def numberText (cs : List Char) : List Char :=
  if cs.all (·.toNat < 0x80) then Text.trim Text.isWhiteSpace cs
  else (Text.trim Text.isBlank cs).map Text.toAsciiDigit

/-- The digit of a base that a character is. -/
def digitIn? (base : Nat) (c : Char) : Option Nat :=
  (Json.hexValue? c).filter (· < base)

/-- Drop the mark of a base in front of digits. -/
def dropBaseMark (base : Nat) (cs : List Char) : List Char :=
  match base, cs with
  | 2, '0' :: 'b' :: rest | 2, '0' :: 'B' :: rest => rest
  | 8, '0' :: 'o' :: rest | 8, '0' :: 'O' :: rest => rest
  | 16, '0' :: 'x' :: rest | 16, '0' :: 'X' :: rest => rest
  | _, cs => cs

/-- The integer of a text in a base. The digits in front are counted before
it is seen whether they are the whole text. -/
def integerIn (base : Nat) (cs : List Char) : Except LoadError Int :=
  let (negative, body) := splitSign (numberText cs)
  let body := dropBaseMark base body
  let digits := body.takeWhile fun c => (digitIn? base c).isSome
  if base = 10 ∧ Json.maxDigits < digits.length then .error (.tooManyDigits digits.length)
  else if digits.isEmpty ∨ digits.length ≠ body.length then
    .error (.invalidInteger base (String.ofList cs))
  else
    let n : Int := digits.foldl (fun n c => n * base + (digitIn? base c).getD 0) 0
    .ok (if negative then -n else n)

/-- Split a text at its colons. -/
def splitColons : List Char → List (List Char)
  | [] => [[]]
  | c :: rest =>
    match splitColons rest with
    | part :: parts => if c = ':' then [] :: part :: parts else (c :: part) :: parts
    | [] => [[c]]

/-- The integer that a scalar of that tag stands for. -/
def integerOf (text : String) : Except LoadError Int := do
  let (negative, cs) := splitSign (text.toList.filter (· != '_'))
  let n ← match cs with
    | [] => .error .emptyNumber
    | ['0'] => .ok 0
    | '0' :: 'b' :: rest => integerIn 2 rest
    | '0' :: 'x' :: rest => integerIn 16 rest
    | '0' :: _ => integerIn 8 cs
    | cs =>
      if cs.contains ':' then do
        let parts ← (splitColons cs).mapM (integerIn 10)
        .ok (parts.foldl (fun n p => n * 60 + p) 0)
      else integerIn 10 cs
  .ok (if negative then -n else n)

/-! ## Floating-point numbers -/

/-- The floating-point number that digits are, with a fraction and an
exponent perhaps. -/
def readDecimal? (cs : List Char) : Option Binary64 :=
  let (ints, rest) := cs.span Json.isDigit
  let (fraction, rest) := match rest with
    | '.' :: r => r.span Json.isDigit
    | r => ([], r)
  let (exponent?, rest) := Json.takeExponent rest
  if (ints.isEmpty && fraction.isEmpty) || !rest.isEmpty then none
  else some (Binary64.ofDecimal false (Json.digitsValue (ints ++ fraction))
    (exponent?.getD 0 - fraction.length))

/-- The floating-point number that a text in lower case is, without a sign. -/
def readFloat? (cs : List Char) : Option Binary64 :=
  let word := String.ofList cs
  if word = "inf" ∨ word = "infinity" then some (.infinite false)
  else if word = "nan" then some .nan
  else readDecimal? cs

/-- The floating-point number of a text in lower case. -/
def floatIn (cs : List Char) : Except LoadError Binary64 :=
  let (negative, body) := splitSign (numberText cs)
  match readFloat? body with
  | some x => .ok (if negative then x.neg else x)
  | none => .error (.invalidFloat (String.ofList cs))

/-- Add digits of base 60, the last one first, from a power of 60 on. A power
that is beyond all floating-point numbers is a failure, whatever its digit. -/
def addSixties (power : Nat) (sum : Binary64) : List Binary64 → Except LoadError Binary64
  | [] => .ok sum
  | digit :: rest =>
    match Binary64.ofRatio false (Nat.pow 60 power) 1 with
    | .finite s m e => addSixties (power + 1) (sum.add (digit.mul (.finite s m e))) rest
    | _ => .error .beyondFloat

/-- The floating-point number that a scalar of that tag stands for. -/
def floatOf (text : String) : Except LoadError Binary64 := do
  let lowered := (Text.lower text).toList.filter (· != '_')
  let (negative, cs) := splitSign lowered
  let body := String.ofList cs
  let x ←
    if lowered.isEmpty then .error .emptyNumber
    else if body = ".inf" then .ok (.infinite false)
    else if body = ".nan" then .ok .nan
    else if cs.contains ':' then do
      let digits ← (splitColons cs).mapM floatIn
      addSixties 0 (Binary64.zero false) digits.reverse
    else floatIn cs
  .ok (if negative then x.neg else x)

/-! ## Dates -/

/-- The days of a month. -/
def daysOf (year month : Nat) : Nat :=
  if month = 2 then
    if year % 4 = 0 ∧ (year % 100 ≠ 0 ∨ year % 400 = 0) then 29 else 28
  else if month = 4 ∨ month = 6 ∨ month = 9 ∨ month = 11 then 30
  else 31

/-- The minutes of a day. -/
def dayMinutes : Nat := 1440

/-- What is said of an offset of a day or more. -/
def offsetRefusal (minutes : Int) : String :=
  let seconds := minutes % dayMinutes * 60
  "offset must be a timedelta strictly between -timedelta(hours=24) and timedelta(hours=24), " ++
    "not datetime.timedelta(days=" ++ toString (minutes / dayMinutes) ++
    (if seconds = 0 then "" else ", seconds=" ++ toString seconds) ++ ")."

/-- A date that exists, with a time of day that does. The offset is looked at
first. -/
def checkTimestamp (t : Timestamp) : Except LoadError Timestamp :=
  match t.offset.filter fun minutes => dayMinutes ≤ minutes.natAbs with
  | some minutes => .error (.invalidDate (offsetRefusal minutes))
  | none =>
    if t.year = 0 then .error (.invalidDate "year 0 is out of range")
    else if t.month < 1 ∨ 12 < t.month then .error (.invalidDate "month must be in 1..12")
    else if t.day < 1 ∨ daysOf t.year t.month < t.day then
      .error (.invalidDate "day is out of range for month")
    else
      match t.time with
      | none => .ok t
      | some (hour, minute, second, _) =>
        if 24 ≤ hour then .error (.invalidDate "hour must be in 0..23")
        else if 60 ≤ minute then .error (.invalidDate "minute must be in 0..59")
        else if 60 ≤ second then .error (.invalidDate "second must be in 0..59")
        else .ok t

/-- A text without a line feed at its end. -/
def dropLineFeed (cs : List Char) : List Char :=
  if cs.getLast? = some '\n' then cs.dropLast else cs

/-! ## Bytes -/

/-- The value of six bits. -/
def base64Value? (c : Char) : Option Nat :=
  if 'A' ≤ c ∧ c ≤ 'Z' then some (c.toNat - 65)
  else if 'a' ≤ c ∧ c ≤ 'z' then some (c.toNat - 71)
  else if Json.isDigit c then some (c.toNat + 4)
  else if c = '+' then some 62
  else if c = '/' then some 63
  else none

/-- The bytes of groups of four digits. -/
def base64Groups : List Nat → Option (List UInt8)
  | a :: b :: c :: d :: rest =>
    (base64Groups rest).map fun bs =>
      (a * 4 + b / 16).toUInt8 :: (b % 16 * 16 + c / 4).toUInt8 :: (c % 4 * 64 + d).toUInt8 :: bs
  | [a, b, c] => some [(a * 4 + b / 16).toUInt8, (b % 16 * 16 + c / 4).toUInt8]
  | [a, b] => some [(a * 4 + b / 16).toUInt8]
  | [_] => none
  | [] => some []

/-- The bytes of a text in base 64, in which other characters are skipped
and `=` fills up the last group. -/
def base64? (cs : List Char) : Option (List UInt8) :=
  let digits := (cs.takeWhile (· != '=')).filterMap base64Value?
  let padding := (cs.filter (· == '=')).length
  if digits.length % 4 = 0 ∨ (4 - digits.length % 4) ≤ padding then base64Groups digits else none

/-! ## Scalars -/

/-- The value of a scalar. -/
def scalarValue (tag text : String) : Except LoadError Value :=
  if tag = Tag.str then .ok (.str text)
  else if tag = Tag.null then .ok .null
  else if tag = Tag.bool then
    let word := Text.lower text
    if trueWords.contains word then .ok (.bool true)
    else if falseWords.contains word then .ok (.bool false)
    else .error (.unknownWord word)
  else if tag = Tag.int then (integerOf text).map .int
  else if tag = Tag.float then (floatOf text).map .float
  else if tag = Tag.timestamp then
    match timestamp? (dropLineFeed text.toList) with
    | some t => (checkTimestamp t).map .date
    | none => .error .notDate
  else if tag = Tag.binary then
    match base64? text.toList with
    | some bs => if text.toList.all (·.toNat < 0x80) then .ok (.bytes bs) else .error .malformed
    | none => .error .malformed
  else .error .malformed

end ManifestDeps.Yaml
