/-
ManifestDeps.Yaml.ScalarText — the text of scalars: plain, between quotes,
and in blocks.

Line breaks inside a plain or quoted scalar fold: a single one is a space,
and of several all but the first stay. A literal block keeps its breaks, a
folded one folds those between lines that do not start with a blank.
-/
import ManifestDeps.Json.Reader
import ManifestDeps.Yaml.Cursor

namespace ManifestDeps.Yaml

open Json (hexValue?)

/-! ## Between quotes -/

/-- The character that a letter behind a backslash stands for. -/
def unescape? : Char → Option Char
  | '0' => some '\x00'
  | 'a' => some '\x07'
  | 'b' => some '\x08'
  | 't' => some '\t'
  | '\t' => some '\t'
  | 'n' => some '\n'
  | 'v' => some '\x0b'
  | 'f' => some '\x0c'
  | 'r' => some '\r'
  | 'e' => some '\x1b'
  | ' ' => some ' '
  | '"' => some '"'
  | '\\' => some '\\'
  | '/' => some '/'
  | 'N' => some '\x85'
  | '_' => some '\xa0'
  | 'L' => some '\u2028'
  | 'P' => some '\u2029'
  | _ => none

/-- The number of hexadecimal digits behind a letter of an escape. -/
def escapeLength? : Char → Option Nat
  | 'x' => some 2
  | 'u' => some 4
  | 'U' => some 8
  | _ => none

/-- The number that hexadecimal digits stand for. -/
def hexNumber? (ds : List Char) : Option Nat :=
  ds.foldlM (fun n d => (hexValue? d).map (n * 16 + ·)) 0

/-- The blank lines behind a line break, as their breaks. A document may
not start or end inside of quotes. -/
def quotedBreaks (acc : List Char) : Nat → Cursor → Except LoadError (List Char × Cursor)
  | 0, c => .ok (acc, c)
  | rounds + 1, c =>
    if c.isDocumentMarker then .error .malformed
    else
      let c := c.skipWhile fun ch => ch == ' ' || ch == '\t'
      if isBreak c.peek then
        let (b, c) := c.takeBreak
        quotedBreaks (acc ++ b) rounds c
      else .ok (acc, c)

/-- What a line break and the blank lines behind it stand for. -/
def folded (lineBreak breaks : List Char) : List Char :=
  if lineBreak != ['\n'] then lineBreak ++ breaks
  else if breaks.isEmpty then [' ']
  else breaks

/-- Read the text between quotes from behind the opening one; `acc` holds
it so far, last character first. -/
def readQuoted (double : Bool) (acc : List Char) :
    Nat → Cursor → Except LoadError (String × Cursor)
  | 0, _ => .error .malformed
  | rounds + 1, c =>
    let ch := c.peek
    if !double && ch == '\'' then
      if c.peekAt 1 == '\'' then readQuoted double ('\'' :: acc) rounds (c.forward 2)
      else .ok (String.ofList acc.reverse, c.next)
    else if double && ch == '"' then .ok (String.ofList acc.reverse, c.next)
    else if double && ch == '\\' then
      let c := c.next
      let e := c.peek
      match unescape? e, escapeLength? e with
      | some x, _ => readQuoted double (x :: acc) rounds c.next
      | none, some n =>
        let c := c.next
        let ds := c.rest.take n
        match hexNumber? ds with
        | some code =>
          if ds.length < n then .error .malformed
          else if 0x10ffff < code then .error .beyondUnicode
          else readQuoted double (Text.charOfCodePoint code :: acc) rounds (c.forward n)
        | none => .error .malformed
      | none, none =>
        if isBreak e then do
          let (breaks, c) ← quotedBreaks [] c.rest.length c.takeBreak.2
          readQuoted double (breaks.reverse ++ acc) rounds c
        else .error .malformed
    else if ch == ' ' || ch == '\t' || isLineEnd ch then
      let (blanks, c) := c.takeWhile fun x => x == ' ' || x == '\t'
      if c.peek == endMark then .error .malformed
      else if isBreak c.peek then do
        let (lineBreak, c) := c.takeBreak
        let (breaks, c) ← quotedBreaks [] (c.rest.length + 1) c
        readQuoted double ((folded lineBreak breaks).reverse ++ acc) rounds c
      else readQuoted double (blanks.reverse ++ acc) rounds c
    else readQuoted double (ch :: acc) rounds c.next

/-! ## Plain -/

/-- The length of a run of plain characters in front. A colon ends it where
a blank follows, and inside brackets so do the indicators there. -/
def plainLength (inFlow : Bool) : List Char → Nat
  | [] => 0
  | ch :: rest =>
    let after := rest.headD endMark
    if isBlankOrEnd ch then 0
    else if ch == ':' &&
        (isBlankOrEnd after || (inFlow && [',', '[', ']', '{', '}'].contains after)) then 0
    else if inFlow && [',', '?', '[', ']', '{', '}'].contains ch then 0
    else plainLength inFlow rest + 1

/-- The blank lines behind a line break of a plain scalar, as their breaks;
none when a document starts or ends among them. -/
def plainBreaks (acc : List Char) : Nat → Cursor → Option (List Char) × Cursor
  | 0, c => (some acc, c)
  | rounds + 1, c =>
    if c.peek == ' ' then plainBreaks acc rounds c.next
    else if isBreak c.peek then
      let (b, c) := c.takeBreak
      if c.isDocumentMarker then (none, c) else plainBreaks (acc ++ b) rounds c
    else (some acc, c)

/-- What stands between two words of a plain scalar, and whether a line
break is in it. -/
def plainGap (c : Cursor) : List Char × Bool × Cursor :=
  let (blanks, c) := c.takeWhile (· == ' ')
  if isBreak c.peek then
    let (lineBreak, c) := c.takeBreak
    if c.isDocumentMarker then ([], true, c)
    else
      match plainBreaks [] (c.rest.length + 1) c with
      | (some breaks, c) => (folded lineBreak breaks, true, c)
      | (none, c) => ([], true, c)
  else (blanks, false, c)

/-- Read a plain scalar word by word. The result tells whether the last
thing that was read is a line break. -/
def readPlain (inFlow : Bool) (indent : Int) (acc gap : List Char) (broken : Bool) :
    Nat → Cursor → String × Bool × Cursor
  | 0, c => (String.ofList acc, broken, c)
  | rounds + 1, c =>
    let n := if c.peek == '#' then 0 else plainLength inFlow c.rest
    if n = 0 then (String.ofList acc, broken, c)
    else
      let acc := acc ++ gap ++ c.rest.take n
      let (gap, broken, c) := plainGap (c.forward n)
      if gap.isEmpty || c.peek == '#' || (!inFlow && c.column < indent) then
        (String.ofList acc, broken, c)
      else readPlain inFlow indent acc gap broken rounds c

/-! ## Blocks -/

/-- What becomes of the line breaks at the end of a block. -/
inductive Chomping where
  | strip
  | clip
  | keep
  deriving Repr, DecidableEq

/-- The digit of an indentation indicator, which is not zero. -/
def indentationDigit? (c : Cursor) : Except LoadError (Option Nat × Cursor) :=
  let ch := c.peek
  if Json.isDigit ch then
    if ch == '0' then .error .malformed else .ok (some (ch.toNat - 48), c.next)
  else .ok (none, c)

/-- The chomping indicator. -/
def chomping? (c : Cursor) : Option Chomping × Cursor :=
  if c.peek == '+' then (some .keep, c.next)
  else if c.peek == '-' then (some .strip, c.next)
  else (none, c)

/-- The indicators in the head of a block, in either order. -/
def blockHead (c : Cursor) : Except LoadError (Chomping × Option Nat × Cursor) := do
  let (chomping, c) := chomping? c
  let (increment, c) ← indentationDigit? c
  let (chomping, c) := match chomping, increment with
    | none, some _ => chomping? c
    | _, _ => (chomping, c)
  if isSpaceOrEnd c.peek then
    let c ← c.skipRestOfLine
    .ok (chomping.getD .clip, increment, c)
  else .error .malformed

/-- The blank lines in front of a block of unknown indentation, and the
widest of them. -/
def blockIndentation (acc : List Char) (widest : Nat) : Nat → Cursor → List Char × Nat × Cursor
  | 0, c => (acc, widest, c)
  | rounds + 1, c =>
    if c.peek == ' ' then
      let c := c.next
      blockIndentation acc (max widest c.column) rounds c
    else if isBreak c.peek then
      let (b, c) := c.takeBreak
      blockIndentation (acc ++ b) widest rounds c
    else (acc, widest, c)

/-- Go over spaces up to a column. -/
def skipIndentation (indent : Nat) (c : Cursor) : Cursor :=
  let spaces := (c.rest.takeWhile (· == ' ')).length
  c.forward (min spaces (indent - c.column))

/-- The blank lines inside a block, as their breaks. -/
def blockBreaks (indent : Nat) (acc : List Char) : Nat → Cursor → List Char × Cursor
  | 0, c => (acc, c)
  | rounds + 1, c =>
    let c := skipIndentation indent c
    if isBreak c.peek then
      let (b, c) := c.takeBreak
      blockBreaks indent (acc ++ b) rounds c
    else (acc, c)

/-- Read the lines of a block. `acc` holds the text so far, `breaks` the
blank lines in front. The result is the text, the break behind its last
line, and the blank lines at the end. -/
def readBlockLines (fold : Bool) (indent : Nat) (acc lineBreak breaks : List Char) :
    Nat → Cursor → List Char × List Char × List Char × Cursor
  | 0, c => (acc, lineBreak, breaks, c)
  | rounds + 1, c =>
    if c.column == indent && c.peek != endMark then
      let startsDark := !(c.peek == ' ' || c.peek == '\t')
      let (line, c) := c.takeWhile (!isLineEnd ·)
      let acc := acc ++ breaks ++ line
      let (lineBreak, c) := c.takeBreak
      let (breaks, c) := blockBreaks indent [] (c.rest.length + 1) c
      if c.column == indent && c.peek != endMark then
        let acc :=
          if fold && lineBreak == ['\n'] && startsDark && !(c.peek == ' ' || c.peek == '\t') then
            if breaks.isEmpty then acc ++ [' '] else acc
          else acc ++ lineBreak
        readBlockLines fold indent acc lineBreak breaks rounds c
      else (acc, lineBreak, breaks, c)
    else (acc, lineBreak, breaks, c)

/-- Read a block from behind its indicator, where `indent` is the column of
the collection around it. -/
def readBlock (fold : Bool) (indent : Int) (c : Cursor) :
    Except LoadError (String × Cursor) := do
  let (chomping, increment, c) ← blockHead c
  let least := max (indent + 1) 1
  let (breaks, indent, c) := match increment with
    | none =>
      let (breaks, widest, c) := blockIndentation [] 0 (c.rest.length + 1) c
      (breaks, max least.toNat widest, c)
    | some n =>
      let indent := least.toNat + n - 1
      let (breaks, c) := blockBreaks indent [] (c.rest.length + 1) c
      (breaks, indent, c)
  let (text, lineBreak, breaks, c) :=
    readBlockLines fold indent [] [] breaks (c.rest.length + 1) c
  let tail := match chomping with
    | .strip => []
    | .clip => lineBreak
    | .keep => lineBreak ++ breaks
  .ok (String.ofList (text ++ tail), c)

end ManifestDeps.Yaml
