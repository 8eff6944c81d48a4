/-
ManifestDeps.Yaml.Cursor — a place in a YAML text, and the classes of
characters that its layout depends on.

Line and column count from 0. The NUL character stands for the end of the
text, since no YAML text holds one.
-/
import ManifestDeps.Json.Value

namespace ManifestDeps.Yaml

/-- Why a text gives no YAML value, or a value cannot be used. -/
inductive LoadError where
  /-- It is not YAML, or a value in it cannot be built. -/
  | malformed
  /-- Its nodes nest too deep. -/
  | tooDeep
  /-- An escape beyond the last code point. -/
  | beyondUnicode
  /-- A text is no integer of its base. -/
  | invalidInteger (base : Nat) (text : String)
  /-- A text is no floating-point number. -/
  | invalidFloat (text : String)
  /-- A number without any digit. -/
  | emptyNumber
  /-- A word is no switch. -/
  | unknownWord (word : String)
  /-- A text is no date. -/
  | notDate
  /-- An integer with too many digits. -/
  | tooManyDigits (count : Nat)
  /-- A date or time that does not exist, with what is wrong. -/
  | invalidDate (reason : String)
  /-- A collection where the text of a date should be. -/
  | dateOfCollection
  /-- A number of base 60 with too many digits for a floating-point number. -/
  | beyondFloat
  /-- An integer has too many digits to be written. -/
  | unwritable
  /-- Anything else, with the reason. -/
  | other (reason : String)
  deriving Repr, DecidableEq

/-- The wording of an error. -/
def LoadError.message : LoadError → String
  | malformed => "YAML parsing error"
  | tooDeep => "maximum recursion depth exceeded"
  | beyondUnicode => "chr() arg not in range(0x110000)"
  | invalidInteger base text =>
    "invalid literal for int() with base " ++ toString base ++ ": " ++ Text.quoted text
  | invalidFloat text => "could not convert string to float: " ++ Text.quoted text
  | emptyNumber => "string index out of range"
  | unknownWord word => Text.quoted word
  | notDate => "'NoneType' object has no attribute 'groupdict'"
  | tooManyDigits count =>
    "Exceeds the limit (4300 digits) for integer string conversion: value has " ++
      toString count ++ " digits; use sys.set_int_max_str_digits() to increase the limit"
  | invalidDate reason => reason
  | dateOfCollection => "expected string or bytes-like object, got 'list'"
  | beyondFloat => "int too large to convert to float"
  | unwritable => Json.unwritableInteger
  | other reason => reason

/-- The character that stands for the end of a text. -/
def endMark : Char := '\x00'

/-- A line break of any kind. -/
def isBreak (c : Char) : Bool :=
  c == '\r' || c == '\n' || c == '\x85' || c == '\u2028' || c == '\u2029'

/-- A line break, or the end of the text. -/
def isLineEnd (c : Char) : Bool :=
  c == endMark || isBreak c

/-- A space, a line break, or the end of the text. -/
def isSpaceOrEnd (c : Char) : Bool :=
  c == ' ' || isLineEnd c

/-- A space, a tab, a line break, or the end of the text. -/
def isBlankOrEnd (c : Char) : Bool :=
  c == '\t' || isSpaceOrEnd c

/-- A character that YAML text may hold. -/
def isAllowed (c : Char) : Bool :=
  let n := c.toNat
  c == '\t' || c == '\n' || c == '\r' || (0x20 ≤ n && n ≤ 0x7e) || n == 0x85 ||
    (0xa0 ≤ n && n ≤ 0xd7ff) || (0xe000 ≤ n && n ≤ 0xfffd) || 0x10000 ≤ n

/-- A letter, a digit, `-` or `_`. -/
def isWordChar (c : Char) : Bool :=
  ('0' ≤ c && c ≤ '9') || ('A' ≤ c && c ≤ 'Z') || ('a' ≤ c && c ≤ 'z') || c == '-' || c == '_'

/-- A place in a text. -/
structure Cursor where
  rest : List Char
  index : Nat := 0
  line : Nat := 0
  column : Nat := 0

namespace Cursor

/-- The character in front. -/
def peek (c : Cursor) : Char :=
  c.rest.headD endMark

/-- The character `k` places on. -/
def peekAt (c : Cursor) (k : Nat) : Char :=
  c.rest.getD k endMark

/-- Go over one character. A carriage return ends a line only where no
line feed follows, and a byte order mark takes no column. -/
def next (c : Cursor) : Cursor :=
  match c.rest with
  | [] => c
  | ch :: rest =>
    let breaks := ch == '\n' || ch == '\x85' || ch == '\u2028' || ch == '\u2029' ||
      (ch == '\r' && rest.head? != some '\n')
    if breaks then ⟨rest, c.index + 1, c.line + 1, 0⟩
    else if ch == '\ufeff' then ⟨rest, c.index + 1, c.line, c.column⟩
    else ⟨rest, c.index + 1, c.line, c.column + 1⟩

/-- Go over some characters. -/
def forward (c : Cursor) : Nat → Cursor
  | 0 => c
  | n + 1 => c.next.forward n

/-- Take the characters of a class in front. -/
def takeWhile (c : Cursor) (p : Char → Bool) : List Char × Cursor :=
  let taken := c.rest.takeWhile p
  (taken, c.forward taken.length)

/-- Go over the characters of a class in front. -/
def skipWhile (c : Cursor) (p : Char → Bool) : Cursor :=
  (c.takeWhile p).2

/-- Take a line break, if one is in front; all but two are read as a line
feed. -/
def takeBreak (c : Cursor) : List Char × Cursor :=
  match c.rest with
  | '\r' :: '\n' :: _ => (['\n'], c.forward 2)
  | ch :: _ =>
    if ch == '\r' || ch == '\n' || ch == '\x85' then (['\n'], c.next)
    else if ch == '\u2028' || ch == '\u2029' then ([ch], c.next)
    else ([], c)
  | [] => ([], c)

/-- Three equal characters in front with a blank behind them, as where a
document starts or ends. -/
def isMarker (c : Cursor) (ch : Char) : Bool :=
  c.rest.take 3 == [ch, ch, ch] && isBlankOrEnd (c.peekAt 3)

/-- A document starts or ends in front. -/
def isDocumentMarker (c : Cursor) : Bool :=
  c.isMarker '-' || c.isMarker '.'

/-- Go over the rest of a line, which holds nothing but a comment. -/
def skipRestOfLine (c : Cursor) : Except LoadError Cursor :=
  let c := c.skipWhile (· == ' ')
  let c := if c.peek == '#' then c.skipWhile (!isLineEnd ·) else c
  if isLineEnd c.peek then .ok c.takeBreak.2 else .error .malformed

end Cursor

end ManifestDeps.Yaml
