/-
ManifestDeps.Yaml.Printer — writing a JSON object as YAML in block style.

Members and items stand on lines of their own; a list below a key is not
indented further. A text is written plain where it reads back as the same
text, else between single quotes, and between double quotes when it has
characters that need an escape: all but line feeds and printable ASCII.
Texts break at blanks behind column 80. A key that is empty, long or of
several lines stands behind a question mark.
-/
import ManifestDeps.Json.Value
import ManifestDeps.Yaml.Tag

namespace ManifestDeps.Yaml

open Json (Value)
open ManifestDeps.Text (hexDigits)

/-! ## The style of a text -/

/-- How a text is written. -/
inductive TextStyle where
  | plain
  | single
  | double
  deriving Repr, DecidableEq

/-- A character that stands for itself between single quotes. -/
def isPlainAscii (c : Char) : Bool :=
  0x20 ≤ c.toNat && c.toNat ≤ 0x7e

/-- A character that may separate words. -/
def isSeparator (c : Char) : Bool :=
  c == ' ' || c == '\n'

/-- Characters that no plain text starts with. -/
def leadingIndicators : List Char :=
  ['#', ',', '[', ']', '{', '}', '&', '*', '!', '|', '>', '\'', '"', '%', '@', '\x60']

/-- Something in a text has a meaning of its own in a block, from a
character on that `before` stands in front of: a colon in front of a
separator, or a number sign behind one. -/
def hasIndicator (before : Char) : List Char → Bool
  | [] => false
  | c :: rest =>
    (c == ':' && rest.head?.all isSeparator) || (c == '#' && isSeparator before) ||
      hasIndicator c rest

/-- The start of a text has a meaning of its own in a block. -/
def startsWithIndicator (cs : List Char) : Bool :=
  match cs with
  | [] => false
  | c :: rest =>
    leadingIndicators.contains c ||
      ((c == '?' || c == '-') && rest.head?.all isSeparator) ||
      "---".toList.isPrefixOf cs || "...".toList.isPrefixOf cs

/-- A blank stands beside a line feed. -/
def hasBlankAtBreak : List Char → Bool
  | ' ' :: '\n' :: _ => true
  | '\n' :: ' ' :: _ => true
  | _ :: rest => hasBlankAtBreak rest
  | [] => false

/-- The text may stand in a block without quotes, if it is a text there. -/
def allowsPlain (cs : List Char) : Bool :=
  !cs.contains '\n' && cs.head? != some ' ' && cs.getLast? != some ' ' &&
    !startsWithIndicator cs && !hasIndicator ' ' cs

/-- The style of a text. -/
def styleOf (s : String) : TextStyle :=
  let cs := s.toList
  if !(cs.all fun c => isPlainAscii c || c == '\n') || hasBlankAtBreak cs then .double
  else if allowsPlain cs && Tag.ofPlain s == Tag.str then .plain
  else .single

/-! ## Writing texts -/

/-- The column behind which texts break. -/
def bestWidth : Nat := 80

/-- A new line, indented to a column. -/
def newLine (indent : Nat) : List Char :=
  '\n' :: List.replicate indent ' '

/-- Where a text may break, and how far its next lines are indented. -/
structure Layout where
  /-- The text may go over several lines. -/
  breaks : Bool
  indent : Nat

/-- A text without quotes or between single quotes, from a column on; `before`
stands in front. A single blank between two words may be a line break, a
line feed is written twice where a run of them starts, and so is a quote
between quotes. -/
def foldedText (l : Layout) (inQuotes : Bool) (column : Nat) (before : Option Char) :
    List Char → List Char
  | [] => []
  | c :: rest =>
    if c = ' ' ∧ l.breaks ∧ bestWidth < column ∧ before.any (· != ' ') ∧
        rest.head?.any (· != ' ') then
      newLine l.indent ++ foldedText l inQuotes l.indent (some c) rest
    else if c = '\n' then
      (if before = some '\n' then [] else ['\n']) ++
        (if rest.head? = some '\n' then ['\n'] else newLine l.indent) ++
        foldedText l inQuotes l.indent (some c) rest
    else if c = '\'' ∧ inQuotes then
      '\'' :: '\'' :: foldedText l inQuotes (column + 2) (some c) rest
    else c :: foldedText l inQuotes (column + 1) (some c) rest

/-- The letter behind a backslash that stands for a character. -/
def escapeLetter? (c : Char) : Option Char :=
  [('\x00', '0'), ('\x07', 'a'), ('\x08', 'b'), ('\t', 't'), ('\n', 'n'), ('\x0b', 'v'),
    ('\x0c', 'f'), ('\r', 'r'), ('\x1b', 'e'), ('"', '"'), ('\\', '\\'), ('\x85', 'N'),
    ('\xa0', '_'), ('\u2028', 'L'), ('\u2029', 'P')].lookup c

/-- Upper-case hexadecimal digits of `n`, at least `width` of them. -/
def upperHexDigits (width n : Nat) : List Char :=
  (hexDigits width n).map Char.toUpper

/-- The escape of a character between double quotes, if it needs one. -/
def escape? (c : Char) : Option (List Char) :=
  match escapeLetter? c with
  | some letter => some ['\\', letter]
  | none =>
    if isPlainAscii c then none
    else if c.toNat ≤ 0xff then some ('\\' :: 'x' :: upperHexDigits 2 c.toNat)
    else if c.toNat ≤ 0xffff then some ('\\' :: 'u' :: upperHexDigits 4 c.toNat)
    else some ('\\' :: 'U' :: upperHexDigits 8 c.toNat)

/-- A break inside a text between double quotes: a blank behind it needs a
backslash. Gives the break and the column behind it. -/
def escapedBreak (l : Layout) (next : Option Char) : List Char × Nat :=
  if next = some ' ' then ('\\' :: newLine l.indent ++ ['\\'], l.indent + 1)
  else ('\\' :: newLine l.indent, l.indent)

/-- A text between double quotes, from a column on. It may break in front of
a blank and around an escape, but not at its first and last characters. -/
def escapedText (l : Layout) (column : Nat) (first behindEscape : Bool) :
    List Char → List Char
  | [] => []
  | c :: rest =>
    let inner := l.breaks && !first && !rest.isEmpty
    match escape? c with
    | some e =>
      let column := column + e.length
      if inner && bestWidth + 1 < column then
        let (b, column) := escapedBreak l rest.head?
        e ++ b ++ escapedText l column false true rest
      else e ++ escapedText l column false true rest
    | none =>
      if inner && (c == ' ' || behindEscape) && bestWidth < column then
        let (b, column) := escapedBreak l (some c)
        b ++ c :: escapedText l (column + 1) false false rest
      else c :: escapedText l (column + 1) false false rest

/-- A text in its style, from a column on. -/
def textChars (l : Layout) (column : Nat) (s : String) : List Char :=
  match styleOf s with
  | .plain => foldedText l false column none s.toList
  | .single => '\'' :: foldedText l true (column + 1) none s.toList ++ ['\'']
  | .double => '"' :: escapedText l (column + 1) true false s.toList ++ ['"']

/-! ## Writing values -/

/-- The written form of a number with a fraction. -/
def floatText : Decimal.Binary64 → String
  | .nan => ".nan"
  | .infinite false => ".inf"
  | .infinite true => "-.inf"
  | x =>
    let cs := x.text.toList
    if cs.contains 'e' && !cs.contains '.' then
      String.ofList (cs.takeWhile (· != 'e') ++ '.' :: '0' :: cs.dropWhile (· != 'e'))
    else x.text

/-- The longest key that stands in front of its colon, in characters. -/
def longestKey : Nat := 122

/-- A character that starts a new line. -/
def isLineBreak (c : Char) : Bool :=
  c == '\n' || c == '\x85' || c == '\u2028' || c == '\u2029'

/-- A key that stands in front of its colon. -/
def isSimpleKey (key : String) : Bool :=
  key != "" && key.length ≤ longestKey && !key.toList.any isLineBreak

/-- A key with its colon. -/
def keyChars (indent : Nat) (key : String) : List Char :=
  if isSimpleKey key then textChars ⟨false, indent⟩ indent key ++ [':']
  else '?' :: ' ' :: textChars ⟨true, indent + 2⟩ (indent + 2) key ++ newLine indent ++ [':']

/-- The column behind the colon of a key. -/
def keyColumn (indent : Nat) (key : String) : Nat :=
  if isSimpleKey key then indent + (textChars ⟨false, indent⟩ indent key).length + 1
  else indent + 1

mutual
/-- A value behind a colon or a hyphen that ends in front of `column`.
`inLine` says that nothing but marks stands on the line so far, so that a
list or an object goes on there. -/
def valueChars (indent column : Nat) (inLine : Bool) : Value → List Char
  | .null => " null".toList
  | .bool true => " true".toList
  | .bool false => " false".toList
  | .int n => ' ' :: (toString n).toList
  | .float x => ' ' :: (floatText x).toList
  | .str s => ' ' :: textChars ⟨true, indent + 2⟩ (column + 1) s
  | .arr [] => " []".toList
  | .arr (v :: rest) =>
    let level := if inLine then indent + 2 else indent
    (if inLine then [' '] else newLine level) ++
      '-' :: valueChars level (level + 1) true v ++ itemsChars level rest
  | .obj [] => [' ', '{', '}']
  | .obj ((key, v) :: rest) =>
    let level := indent + 2
    (if inLine then [' '] else newLine level) ++ keyChars level key ++
      valueChars level (keyColumn level key) (!isSimpleKey key) v ++ membersChars level rest
termination_by structural v => v

/-- Items behind the first. -/
def itemsChars (indent : Nat) : List Value → List Char
  | [] => []
  | v :: rest =>
    newLine indent ++ '-' :: valueChars indent (indent + 1) true v ++ itemsChars indent rest
termination_by structural vs => vs

/-- Members behind the first. -/
def membersChars (indent : Nat) : List (String × Value) → List Char
  | [] => []
  | (key, v) :: rest =>
    newLine indent ++ keyChars indent key ++
      valueChars indent (keyColumn indent key) (!isSimpleKey key) v ++ membersChars indent rest
termination_by structural ms => ms
end
/-- The written form of an object. -/
def printMembers : List (String × Value) → String
  | [] => "\x7b\x7d\n"
  | (key, v) :: rest =>
    String.ofList (keyChars 0 key ++
      valueChars 0 (keyColumn 0 key) (!isSimpleKey key) v ++ membersChars 0 rest ++
      ['\n'])

end ManifestDeps.Yaml
