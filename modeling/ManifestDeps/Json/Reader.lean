/-
ManifestDeps.Json.Reader — reading a JSON value.

The reader goes over the characters once and reports the first fault with
its position. It accepts the three number words `NaN`, `Infinity` and
`-Infinity`; of two members of one name the later value stands at the
place of the earlier. Two limits hold for texts that are JSON otherwise:
an integer has at most 4300 digits, and values nest only so deep, 1000 levels
unless the reader is given another depth.
-/
import ManifestDeps.Json.Value
import ManifestDeps.Text.Encoding

namespace ManifestDeps.Json

open ManifestDeps.Decimal ManifestDeps.Text

/-- What is wrong at a position of a JSON text. -/
inductive SyntaxFault where
  | expectedValue
  | expectedName
  | expectedColon
  | expectedComma
  | extraData
  | unterminatedString
  | invalidControl
  | invalidEscape
  | invalidUnicodeEscape
  | byteOrderMark
  deriving Repr, DecidableEq

/-- The wording of a fault. -/
def SyntaxFault.message : SyntaxFault → String
  | expectedValue => "Expecting value"
  | expectedName => "Expecting property name enclosed in double quotes"
  | expectedColon => "Expecting ':' delimiter"
  | expectedComma => "Expecting ',' delimiter"
  | extraData => "Extra data"
  | unterminatedString => "Unterminated string starting at"
  | invalidControl => "Invalid control character at"
  | invalidEscape => "Invalid \\escape"
  | invalidUnicodeEscape => "Invalid \\uXXXX escape"
  | byteOrderMark => "Unexpected UTF-8 BOM (decode using utf-8-sig)"

/-- A fault with its place: line and column count from 1, the position
from 0. -/
structure SyntaxError where
  fault : SyntaxFault
  line : Nat
  column : Nat
  position : Nat
  deriving Repr, DecidableEq

/-- The wording of an error with its place. -/
def SyntaxError.message (e : SyntaxError) : String :=
  e.fault.message ++ ": line " ++ toString e.line ++ " column " ++ toString e.column
    ++ " (char " ++ toString e.position ++ ")"

/-- A limit of the reader that a text exceeds. -/
inductive LimitError where
  /-- An integer with too many digits. -/
  | digits (count : Nat)
  /-- An array or an object that stands too deep. -/
  | depth (inObject : Bool)
  deriving Repr, DecidableEq

/-- Greatest depth of nested arrays and objects, if none is given. -/
def maxDepth : Nat := 1000

/-- The wording of a limit. -/
def LimitError.message : LimitError → String
  | digits count => "Exceeds the limit (" ++ toString maxDigits
      ++ " digits) for integer string conversion: value has " ++ toString count
      ++ " digits; use sys.set_int_max_str_digits() to increase the limit"
  | depth inObject => "maximum recursion depth exceeded while decoding a JSON "
      ++ (if inObject then "object" else "array") ++ " from a unicode string"

/-- Why a text was not read. -/
inductive ReadError where
  | malformed (e : SyntaxError)
  | limit (e : LimitError)
  deriving Repr, DecidableEq

/-- The wording of a failed reading. -/
def ReadError.message : ReadError → String
  | malformed e => e.message
  | limit e => e.message

/-- Where reading stops: at a fault, by its position, or at a limit. -/
inductive Stop where
  | fault (f : SyntaxFault) (position : Nat)
  | limit (e : LimitError)
  deriving Repr, DecidableEq

/-- The characters still to read, and how many were read before. -/
structure Cursor where
  pos : Nat
  rest : List Char

/-- One thing that was read, and where to go on. -/
abbrev Read (α : Type) := α × Cursor

/-- Stop at a fault. -/
def stopAt {α : Type} (f : SyntaxFault) (position : Nat) : Except Stop α :=
  .error (.fault f position)

/-- Blanks of JSON: space, tab and the two line breaks. -/
def isBlank (c : Char) : Bool :=
  c == ' ' || c == '\t' || c == '\n' || c == '\r'

/-- Go over blanks. -/
def skipBlanks (pos : Nat) : List Char → Cursor
  | c :: rest => if isBlank c then skipBlanks (pos + 1) rest else ⟨pos, c :: rest⟩
  | [] => ⟨pos, []⟩

/-- Go on behind one character and the blanks after it. -/
def Cursor.advance (cur : Cursor) : Cursor :=
  skipBlanks (cur.pos + 1) (cur.rest.drop 1)

/-! ## Strings -/

/-- The value of a hexadecimal digit. -/
def hexValue? (c : Char) : Option Nat :=
  if '0' ≤ c ∧ c ≤ '9' then some (c.toNat - 48)
  else if 'a' ≤ c ∧ c ≤ 'f' then some (c.toNat - 87)
  else if 'A' ≤ c ∧ c ≤ 'F' then some (c.toNat - 55)
  else none

/-- The value of four hexadecimal digits. -/
def hex4? (a b c d : Char) : Option Nat :=
  match hexValue? a, hexValue? b, hexValue? c, hexValue? d with
  | some x, some y, some z, some w => some (((x * 16 + y) * 16 + z) * 16 + w)
  | _, _, _, _ => none

/-- The character that a letter behind a backslash stands for. -/
def unescape? : Char → Option Char
  | '"' => some '"'
  | '\\' => some '\\'
  | '/' => some '/'
  | 'b' => some '\x08'
  | 'f' => some '\x0c'
  | 'n' => some '\n'
  | 'r' => some '\r'
  | 't' => some '\t'
  | _ => none

/-- The characters of code points as they were written: two that form a
surrogate pair are one character, and a surrogate alone is U+FFFD. -/
def joinPairs : List Nat → List Char
  | high :: low :: rest =>
    if isHighSurrogate high && isLowSurrogate low then
      Char.ofNat (joinSurrogates high low) :: joinPairs rest
    else charOfCodePoint high :: joinPairs (low :: rest)
  | [n] => [charOfCodePoint n]
  | [] => []

/-- Read a string behind its opening quote, which stands at `start`; `acc`
holds its code points so far, last first. -/
def readString (start : Nat) (pos : Nat) (acc : List Nat) :
    List Char → Except Stop (Read String)
  | [] => stopAt .unterminatedString start
  | '"' :: rest => .ok (String.ofList (joinPairs acc.reverse), ⟨pos + 1, rest⟩)
  | '\\' :: 'u' :: a :: b :: c :: d :: rest =>
    match rest.isEmpty, hex4? a b c d with
    | false, some n => readString start (pos + 6) (n :: acc) rest
    | _, _ => stopAt .invalidUnicodeEscape (pos + 1)
  | '\\' :: 'u' :: _ => stopAt .invalidUnicodeEscape (pos + 1)
  | ['\\'] => stopAt .unterminatedString start
  | '\\' :: e :: rest =>
    match unescape? e with
    | some c => readString start (pos + 2) (c.toNat :: acc) rest
    | none => stopAt .invalidEscape pos
  | c :: rest =>
    if c.toNat < 0x20 then stopAt .invalidControl pos
    else readString start (pos + 1) (c.toNat :: acc) rest

/-! ## Numbers -/

/-- An ASCII digit. -/
def isDigit (c : Char) : Bool :=
  '0' ≤ c && c ≤ '9'

/-- The number that decimal digits stand for. -/
def digitsValue (ds : List Char) : Nat :=
  ds.foldl (fun n d => n * 10 + (d.toNat - 48)) 0

/-- The integer part: a zero alone, or digits that do not begin with one. -/
def takeInteger (cs : List Char) : List Char × List Char :=
  match cs with
  | '0' :: rest => (['0'], rest)
  | _ => cs.span isDigit

/-- The fraction: a point with a digit behind it. -/
def takeFraction (cs : List Char) : List Char × List Char :=
  match cs with
  | '.' :: rest =>
    match rest.span isDigit with
    | ([], _) => ([], cs)
    | split => split
  | _ => ([], cs)

/-- The exponent: `e`, a sign perhaps, and digits. -/
def takeExponent (cs : List Char) : Option Int × List Char :=
  match cs with
  | e :: rest =>
    if e == 'e' || e == 'E' then
      let (negative, unsigned) := match rest with
        | '-' :: r => (true, r)
        | '+' :: r => (false, r)
        | r => (false, r)
      match unsigned.span isDigit with
      | ([], _) => (none, cs)
      | (ds, r) =>
        let n : Int := digitsValue ds
        (some (if negative then -n else n), r)
    else (none, cs)
  | [] => (none, cs)

/-- Read a number. -/
def readNumber (cur : Cursor) : Except Stop (Read Value) :=
  let (negative, cs) := match cur.rest with
    | '-' :: r => (true, r)
    | r => (false, r)
  match takeInteger cs with
  | ([], _) => stopAt .expectedValue cur.pos
  | (ints, afterInt) =>
    let (fraction, afterFraction) := takeFraction afterInt
    let (exponent?, rest) := takeExponent afterFraction
    let next : Cursor := ⟨cur.pos + (cur.rest.length - rest.length), rest⟩
    if fraction.isEmpty && exponent?.isNone then
      if maxDigits < ints.length then .error (.limit (.digits ints.length))
      else
        let n : Int := digitsValue ints
        .ok (.int (if negative then -n else n), next)
    else
      let x := Binary64.ofDecimal negative (digitsValue (ints ++ fraction))
        (exponent?.getD 0 - fraction.length)
      .ok (.float x, next)

/-! ## Values -/

/-- The value of a word at the front of `cs`, with the length of the word. -/
def readWord? (cs : List Char) : Option (Value × Nat) :=
  match cs with
  | 'n' :: 'u' :: 'l' :: 'l' :: _ => some (.null, 4)
  | 't' :: 'r' :: 'u' :: 'e' :: _ => some (.bool true, 4)
  | 'f' :: 'a' :: 'l' :: 's' :: 'e' :: _ => some (.bool false, 5)
  | 'N' :: 'a' :: 'N' :: _ => some (.float .nan, 3)
  | 'I' :: 'n' :: 'f' :: 'i' :: 'n' :: 'i' :: 't' :: 'y' :: _ =>
    some (.float (.infinite false), 8)
  | '-' :: 'I' :: 'n' :: 'f' :: 'i' :: 'n' :: 'i' :: 't' :: 'y' :: _ =>
    some (.float (.infinite true), 9)
  | _ => none

/-- Read the items of an array, each with `item`, up to the closing
bracket. Every round takes at least one character, so as many rounds as
characters are enough. -/
def readItems (item : Cursor → Except Stop (Read Value)) (acc : List Value) :
    Nat → Cursor → Except Stop (Read Value)
  | 0, cur => stopAt .expectedComma cur.pos
  | rounds + 1, cur => do
    let (v, cur) ← item cur
    let cur := skipBlanks cur.pos cur.rest
    match cur.rest with
    | ']' :: rest => .ok (.arr (v :: acc).reverse, ⟨cur.pos + 1, rest⟩)
    | ',' :: _ => readItems item (v :: acc) rounds cur.advance
    | _ => stopAt .expectedComma cur.pos

/-- Read the members of an object, each value with `item`, up to the
closing brace. -/
def readMembers (item : Cursor → Except Stop (Read Value)) (acc : List (String × Value)) :
    Nat → Cursor → Except Stop (Read Value)
  | 0, cur => stopAt .expectedComma cur.pos
  | rounds + 1, cur =>
    match cur.rest with
    | '"' :: rest => do
      let (name, cur) ← readString cur.pos (cur.pos + 1) [] rest
      let cur := skipBlanks cur.pos cur.rest
      match cur.rest with
      | ':' :: _ =>
        let (v, cur) ← item cur.advance
        let cur := skipBlanks cur.pos cur.rest
        match cur.rest with
        | '}' :: rest => .ok (.obj (setMember acc name v), ⟨cur.pos + 1, rest⟩)
        | ',' :: _ => readMembers item (setMember acc name v) rounds cur.advance
        | _ => stopAt .expectedComma cur.pos
      | _ => stopAt .expectedColon cur.pos
    | _ => stopAt .expectedName cur.pos

/-- Read a value that stands in front, with at most `depth` levels of
arrays and objects. -/
def readValue : Nat → Cursor → Except Stop (Read Value)
  | depth, cur =>
    match cur.rest with
    | '"' :: rest => do
      let (s, next) ← readString cur.pos (cur.pos + 1) [] rest
      .ok (.str s, next)
    | '[' :: _ =>
      match depth with
      | 0 => .error (.limit (.depth false))
      | depth + 1 =>
        let inner := cur.advance
        match inner.rest with
        | ']' :: rest => .ok (.arr [], ⟨inner.pos + 1, rest⟩)
        | _ => readItems (readValue depth) [] (inner.rest.length + 1) inner
    | '{' :: _ =>
      match depth with
      | 0 => .error (.limit (.depth true))
      | depth + 1 =>
        let inner := cur.advance
        match inner.rest with
        | '}' :: rest => .ok (.obj [], ⟨inner.pos + 1, rest⟩)
        | _ => readMembers (readValue depth) [] (inner.rest.length + 1) inner
    | cs =>
      match readWord? cs with
      | some (v, n) => .ok (v, ⟨cur.pos + n, cs.drop n⟩)
      | none => readNumber cur

/-- The place of a position in a text, for a fault there. -/
def SyntaxError.at (cs : List Char) (f : SyntaxFault) (position : Nat) : SyntaxError :=
  let before := cs.take position
  { fault := f
    line := before.count '\n' + 1
    column := (before.reverse.takeWhile (· != '\n')).length + 1
    position := position }

/-- The error that a stop means for a text. -/
def Stop.error (cs : List Char) : Stop → ReadError
  | .fault f position => .malformed (SyntaxError.at cs f position)
  | .limit e => .limit e

/-- Read a text that holds one value with blanks around it. -/
def readChars (cs : List Char) (depth : Nat := maxDepth) : Except ReadError Value :=
  let start := skipBlanks 0 cs
  match readValue depth start with
  | .error stop => .error (stop.error cs)
  | .ok (v, cur) =>
    match skipBlanks cur.pos cur.rest with
    | ⟨_, []⟩ => .ok v
    | ⟨pos, _⟩ => .error (.malformed (SyntaxError.at cs .extraData pos))

/-- Read a text, in which a byte order mark is a fault. -/
def read (s : String) (depth : Nat := maxDepth) : Except ReadError Value :=
  match s.toList with
  | '\ufeff' :: rest => .error (.malformed (SyntaxError.at ('\ufeff' :: rest) .byteOrderMark 0))
  | cs => readChars cs depth

end ManifestDeps.Json
