/-
ManifestDeps.Yaml.Lexer — the tokens of a text.

Indentation opens and closes block collections. That a scalar was the key
of a mapping shows only at the colon behind it, so every place where a key
may start is kept as pending, one for each level of brackets; the colon
puts a key token, and perhaps the start of a mapping, in front of it. A
pending key must end on its line and within 1024 characters.
-/
import ManifestDeps.Yaml.ScalarText
import ManifestDeps.Yaml.Token

namespace ManifestDeps.Yaml

/-- A place where a key may have started. -/
structure PendingKey where
  /-- Number of the token that would be the key. -/
  token : Nat
  /-- Nothing but a key can stand there. -/
  required : Bool
  index : Nat
  line : Nat
  column : Nat

/-- Longest key that needs no indicator of its own. -/
def maxKeyLength : Nat := 1024

/-- The state between two tokens. -/
structure Lexer where
  cur : Cursor
  tokens : Array Token := #[]
  /-- Depth of brackets. -/
  flow : Nat := 0
  /-- Column of the block collection around, or -1. -/
  indent : Int := -1
  /-- Columns of the collections around that one. -/
  indents : List Int := []
  /-- A key may start here. -/
  keyAllowed : Bool := true
  /-- Pending keys by depth of brackets. -/
  pending : List (Nat × PendingKey) := []
  done : Bool := false

namespace Lexer

/-- A step of the lexer. -/
abbrev Result := Except LoadError Lexer

/-- The lexer stands outside of brackets. -/
def inBlock (l : Lexer) : Bool :=
  l.flow == 0

/-- Append a token. -/
def push (l : Lexer) (t : Token) : Lexer :=
  { l with tokens := l.tokens.push t }

/-- Go over characters and append a token for them. -/
def take (l : Lexer) (n : Nat) (t : Token) : Lexer :=
  { l with cur := l.cur.forward n, tokens := l.tokens.push t }

/-- The pending key has gone out of reach. -/
def isStale (l : Lexer) (k : PendingKey) : Bool :=
  k.line != l.cur.line || maxKeyLength < l.cur.index - k.index

/-- Drop pending keys that are out of reach. -/
def dropStaleKeys (l : Lexer) : Result :=
  if l.pending.any fun p => l.isStale p.2 && p.2.required then .error .malformed
  else .ok { l with pending := l.pending.filter fun p => !l.isStale p.2 }

/-- Drop the pending key of this depth. -/
def dropKey (l : Lexer) : Result :=
  if l.pending.any fun p => p.1 == l.flow && p.2.required then .error .malformed
  else .ok { l with pending := l.pending.filter fun p => p.1 != l.flow }

/-- Remember that a key may start here. -/
def saveKey (l : Lexer) : Result :=
  if l.keyAllowed then do
    let required := l.inBlock && l.indent == (l.cur.column : Int)
    let l ← l.dropKey
    let k : PendingKey := ⟨l.tokens.size, required, l.cur.index, l.cur.line, l.cur.column⟩
    .ok { l with pending := (l.flow, k) :: l.pending }
  else .ok l

/-- Close the block collections that stand farther right than a column. -/
def unwind (l : Lexer) (column : Int) : Lexer :=
  if l.inBlock then go l.indents l else l
where
  /-- Close collections as long as they stand too far right. -/
  go (indents : List Int) (l : Lexer) : Lexer :=
    if l.indent ≤ column then l
    else
      match indents with
      | [] => l
      | i :: rest => go rest { l.push .blockEnd with indent := i, indents := rest }

/-- Open a block collection at a column, if it stands farther right than
the one around; tells whether it does. -/
def indentTo (l : Lexer) (column : Int) : Bool × Lexer :=
  if l.indent < column then
    (true, { l with indents := l.indent :: l.indents, indent := column })
  else (false, l)

/-- Go over blanks, comments and line breaks. Outside of brackets a key may
start on a new line. -/
def skipToToken (l : Lexer) : Lexer :=
  go (l.cur.rest.length + 1) l
where
  /-- Go on line by line. -/
  go : Nat → Lexer → Lexer
    | 0, l => l
    | rounds + 1, l =>
      let cur := l.cur.skipWhile (· == ' ')
      let cur := if cur.peek == '#' then cur.skipWhile (!isLineEnd ·) else cur
      if isBreak cur.peek then
        go rounds { l with cur := cur.takeBreak.2, keyAllowed := l.keyAllowed || l.inBlock }
      else { l with cur := cur }

/-! ## One token each -/

/-- The end of the text. -/
def endOfStream (l : Lexer) : Result := do
  let l ← (l.unwind (-1)).dropKey
  .ok { l.push .streamEnd with keyAllowed := false, pending := [], done := true }

/-- The number in front. -/
def number (c : Cursor) : Except LoadError (Nat × Cursor) :=
  match c.takeWhile Json.isDigit with
  | ([], _) => .error .malformed
  | (ds, c) => .ok (Json.digitsValue ds, c)

/-- The handle of a tag: `!`, `!!`, or a word between exclamation marks.
Where no second mark is needed, none is taken behind a lone one. -/
def tagHandle (c : Cursor) : Except LoadError (String × Cursor) :=
  if c.peek != '!' then .error .malformed
  else if c.peekAt 1 == ' ' then .ok ("!", c.next)
  else
    let (word, after) := c.next.takeWhile isWordChar
    if after.peek == '!' then .ok (String.ofList ('!' :: word ++ ['!']), after.next)
    else .error .malformed

/-- A character of a tag. -/
def isTagChar (c : Char) : Bool :=
  isWordChar c || ";/?:@&=+$,.!~*'()[]".toList.contains c

/-- The bytes of escapes in a tag. -/
def tagEscapes (acc : List UInt8) : Nat → Cursor → Except LoadError (List UInt8 × Cursor)
  | 0, c => .ok (acc, c)
  | rounds + 1, c =>
    if c.peek == '%' then
      match Json.hexValue? (c.peekAt 1), Json.hexValue? (c.peekAt 2) with
      | some a, some b => tagEscapes (acc ++ [(a * 16 + b).toUInt8]) rounds (c.forward 3)
      | _, _ => .error .malformed
    else .ok (acc, c)

/-- The rest of a tag, in which bytes may be escaped. -/
def tagRest (acc : List Char) : Nat → Cursor → Except LoadError (String × Cursor)
  | 0, _ => .error .malformed
  | rounds + 1, c =>
    if c.peek == '%' then do
      let (bytes, c) ← tagEscapes [] (c.rest.length + 1) c
      match Text.decodeUtf8 bytes with
      | .ok cs => tagRest (acc ++ cs) rounds c
      | .error _ => .error .malformed
    else
      match c.takeWhile isTagChar with
      | ([], c) => if acc.isEmpty then .error .malformed else .ok (String.ofList acc, c)
      | (cs, c) => tagRest (acc ++ cs) rounds c

/-- The rest of a tag from here. -/
def tagSuffix (c : Cursor) : Except LoadError (String × Cursor) :=
  tagRest [] (c.rest.length + 2) c

/-- A directive. -/
def directive (l : Lexer) : Result := do
  let l ← (l.unwind (-1)).dropKey
  let (name, c) := l.cur.next.takeWhile isWordChar
  if name.isEmpty || !isSpaceOrEnd c.peek then .error .malformed
  else
    let (d, c) ← match String.ofList name with
      | "YAML" => do
        let (major, c) ← number (c.skipWhile (· == ' '))
        if c.peek != '.' then .error .malformed
        else
          let (minor, c) ← number c.next
          if isSpaceOrEnd c.peek then .ok (Directive.version major minor, c)
          else .error .malformed
      | "TAG" => do
        let (handle, c) ← tagHandle (c.skipWhile (· == ' '))
        if c.peek != ' ' then .error .malformed
        else
          let (expansion, c) ← tagSuffix (c.skipWhile (· == ' '))
          if isSpaceOrEnd c.peek then .ok (Directive.tagHandle handle expansion, c)
          else .error .malformed
      | _ => .ok (Directive.other, c.skipWhile (!isLineEnd ·))
    let c ← c.skipRestOfLine
    .ok { l.push (.directive d) with cur := c, keyAllowed := false }

/-- The start or the end of a document. -/
def documentMarker (l : Lexer) (t : Token) : Result := do
  let l ← (l.unwind (-1)).dropKey
  .ok { l.take 3 t with keyAllowed := false }

/-- An opening bracket. -/
def openBracket (l : Lexer) (t : Token) : Result := do
  let l ← l.saveKey
  .ok { l.take 1 t with flow := l.flow + 1, keyAllowed := true }

/-- A closing bracket. -/
def closeBracket (l : Lexer) (t : Token) : Result := do
  let l ← l.dropKey
  .ok { l.take 1 t with flow := l.flow - 1, keyAllowed := false }

/-- A comma between brackets. -/
def flowEntry (l : Lexer) : Result := do
  let l ← { l with keyAllowed := true }.dropKey
  .ok (l.take 1 .flowEntry)

/-- The dash of a sequence entry. -/
def blockEntry (l : Lexer) : Result := do
  let l ←
    if l.inBlock then
      if l.keyAllowed then
        let (opened, l) := l.indentTo l.cur.column
        .ok (if opened then l.push .blockSequenceStart else l)
      else .error .malformed
    else .ok l
  let l ← { l with keyAllowed := true }.dropKey
  .ok (l.take 1 .blockEntry)

/-- The question mark of a key. -/
def key (l : Lexer) : Result := do
  let l ←
    if l.inBlock then
      if l.keyAllowed then
        let (opened, l) := l.indentTo l.cur.column
        .ok (if opened then l.push .blockMappingStart else l)
      else .error .malformed
    else .ok l
  let l ← { l with keyAllowed := l.inBlock }.dropKey
  .ok (l.take 1 .key)

/-- Insert a token. -/
def insertAt (l : Lexer) (i : Nat) (t : Token) : Lexer :=
  { l with tokens := l.tokens.insertIdxIfInBounds i t }

/-- The colon of a value. -/
def value (l : Lexer) : Result :=
  match l.pending.lookup l.flow with
  | some k =>
    let l := { l with pending := l.pending.filter fun p => p.1 != l.flow }.insertAt k.token .key
    let l :=
      if l.inBlock then
        let (opened, l) := l.indentTo k.column
        if opened then l.insertAt k.token .blockMappingStart else l
      else l
    .ok { l.take 1 .value with keyAllowed := false }
  | none => do
    let l ←
      if l.inBlock then
        if l.keyAllowed then
          let (opened, l) := l.indentTo l.cur.column
          .ok (if opened then l.push .blockMappingStart else l)
        else .error .malformed
      else .ok l
    let l ← { l with keyAllowed := l.inBlock }.dropKey
    .ok (l.take 1 .value)

/-- The name behind the sign of an anchor or alias. -/
def named (l : Lexer) (token : String → Token) : Result := do
  let l ← l.saveKey
  let (name, c) := l.cur.next.takeWhile isWordChar
  if name.isEmpty then .error .malformed
  else if isBlankOrEnd c.peek || "?:,]\x7d%@\x60".toList.contains c.peek then
    .ok { l.push (token (String.ofList name)) with cur := c, keyAllowed := false }
  else .error .malformed

/-- The tag has a handle: an exclamation mark comes before the next space. -/
def hasHandle (cs : List Char) : Bool :=
  (cs.takeWhile (!isSpaceOrEnd ·)).contains '!'

/-- A tag. -/
def tag (l : Lexer) : Result := do
  let l ← l.saveKey
  let c := l.cur
  let (handle, suffix, c) ←
    if c.peekAt 1 == '<' then do
      let (suffix, c) ← tagSuffix (c.forward 2)
      if c.peek == '>' then .ok ((none : Option String), suffix, c.next) else .error .malformed
    else if isBlankOrEnd (c.peekAt 1) then .ok (none, "!", c.next)
    else if hasHandle (c.rest.drop 1) then do
      let (handle, c) ← tagHandle c
      let (suffix, c) ← tagSuffix c
      .ok (some handle, suffix, c)
    else do
      let (suffix, c) ← tagSuffix c.next
      .ok (some "!", suffix, c)
  if isSpaceOrEnd c.peek then
    .ok { l.push (.tag handle suffix) with cur := c, keyAllowed := false }
  else .error .malformed

/-- A block scalar. -/
def blockScalar (l : Lexer) (fold : Bool) : Result := do
  let l ← { l with keyAllowed := true }.dropKey
  let (text, c) ← readBlock fold l.indent l.cur.next
  .ok { l.push (.scalar text false) with cur := c }

/-- A scalar between quotes. -/
def quotedScalar (l : Lexer) (double : Bool) : Result := do
  let l ← l.saveKey
  let (text, c) ← readQuoted double [] (l.cur.rest.length + 1) l.cur.next
  .ok { l.push (.scalar text false) with cur := c, keyAllowed := false }

/-- A plain scalar. -/
def plainScalar (l : Lexer) : Result := do
  let l ← l.saveKey
  let (text, broken, c) :=
    readPlain (!l.inBlock) (l.indent + 1) [] [] false (l.cur.rest.length + 1) l.cur
  .ok { l.push (.scalar text true) with cur := c, keyAllowed := broken }

/-- A plain scalar may start here. -/
def startsPlain (l : Lexer) : Bool :=
  let ch := l.cur.peek
  !(isBlankOrEnd ch || "-?:,[]\x7b\x7d#&*!|>'\"%@\x60".toList.contains ch) ||
    (!isBlankOrEnd (l.cur.peekAt 1) && (ch == '-' || (l.inBlock && (ch == '?' || ch == ':'))))

/-- Read the next token. -/
def step (l : Lexer) : Result := do
  let l ← l.skipToToken.dropStaleKeys
  let l := l.unwind l.cur.column
  let c := l.cur
  let ch := c.peek
  let blankBehind := isBlankOrEnd (c.peekAt 1)
  if c.rest.isEmpty then l.endOfStream
  else if ch == '%' && c.column == 0 then l.directive
  else if c.column == 0 && c.isMarker '-' then l.documentMarker .documentStart
  else if c.column == 0 && c.isMarker '.' then l.documentMarker .documentEnd
  else if ch == '[' then l.openBracket .flowSequenceStart
  else if ch == '{' then l.openBracket .flowMappingStart
  else if ch == ']' then l.closeBracket .flowSequenceEnd
  else if ch == '}' then l.closeBracket .flowMappingEnd
  else if ch == ',' then l.flowEntry
  else if ch == '-' && blankBehind then l.blockEntry
  else if ch == '?' && (!l.inBlock || blankBehind) then l.key
  else if ch == ':' && (!l.inBlock || blankBehind) then l.value
  else if ch == '*' then l.named .alias
  else if ch == '&' then l.named .anchor
  else if ch == '!' then l.tag
  else if ch == '|' && l.inBlock then l.blockScalar false
  else if ch == '>' && l.inBlock then l.blockScalar true
  else if ch == '\'' then l.quotedScalar false
  else if ch == '"' then l.quotedScalar true
  else if l.startsPlain then l.plainScalar
  else .error .malformed

/-- Read tokens to the end of the text. -/
def run : Nat → Lexer → Except LoadError (List Token)
  | 0, _ => .error .malformed
  | rounds + 1, l => do
    let l ← l.step
    if l.done then .ok l.tokens.toList else run rounds l

end Lexer

/-- The tokens of a text. A byte order mark in front is no part of it. -/
def tokenize (cs : List Char) : Except LoadError (List Token) :=
  if cs.all isAllowed then
    let start : Cursor := { rest := cs }
    let start := if start.peek == '\ufeff' then start.next else start
    Lexer.run (cs.length + 2) { cur := start }
  else .error .malformed

end ManifestDeps.Yaml
