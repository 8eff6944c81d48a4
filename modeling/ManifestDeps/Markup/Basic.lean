/-
ManifestDeps.Markup.Basic — text with tags in square brackets, and the
plain text in it.

A tag opens a style, as in `[bold]`, or closes one, as in `[/bold]`; `[/]`
closes the last one that is open. Brackets that do not start like a tag
are text, and so is a tag behind a backslash. A tag may only close what is
open; what is never closed goes to the end. What stands behind an equals
sign in a tag belongs to its style, but that of a handler, as in
`[@click=open()]`, is not looked at.
-/
import ManifestDeps.Markup.Emoji
import ManifestDeps.Markup.Style

namespace ManifestDeps.Markup

/-- A tag: its name, and what stands behind an equals sign. -/
structure Tag where
  name : List Char
  parameters : Option (List Char) := none
  deriving Repr, DecidableEq

namespace Tag

/-- The tag of the text between its brackets. -/
def ofText (text : List Char) : Tag where
  name := text.takeWhile (· != '=')
  parameters :=
    match text.dropWhile (· != '=') with
    | _ :: parameters => some parameters
    | [] => none

/-- The written form of a tag. -/
def text (t : Tag) : String :=
  "[" ++ String.ofList t.name ++ (t.parameters.elim "" fun p => "=" ++ String.ofList p) ++ "]"

/-- What a closing tag closes: the name of a style, which is empty for the
last one that is open. -/
def closes? (t : Tag) : Option (List Char) :=
  match t.name with
  | '/' :: name => some (Text.trim Text.isBlank name)
  | _ => none

end Tag

/-! ## Parts of a text -/

/-- A part of a text with tags. -/
inductive Part where
  | text (cs : List Char)
  /-- A tag, with the position of its opening bracket. -/
  | tag (position : Nat) (t : Tag)
  deriving Repr, DecidableEq

/-- A character that a tag may start with. -/
def startsTag (c : Char) : Bool :=
  ('a' ≤ c && c ≤ 'z') || c == '#' || c == '/' || c == '@'

/-- The text up to the closing bracket, unless there is none before the next
opening one. -/
def untilBracket? : List Char → Option (List Char)
  | [] => none
  | c :: rest =>
    if c = ']' then some []
    else if c = '[' then none
    else (untilBracket? rest).map (c :: ·)

/-- The text of a tag from behind its opening bracket. -/
def tagText? : List Char → Option (List Char)
  | [] => none
  | c :: rest => if startsTag c then (untilBracket? rest).map (c :: ·) else none

/-- A text whose brackets are not escaped. -/
def unescape : List Char → List Char
  | '\\' :: '[' :: rest => '[' :: unescape rest
  | c :: rest => c :: unescape rest
  | [] => []

/-- Text as a part, unless there is none. -/
def textPart (cs : List Char) : List Part :=
  if cs.isEmpty then [] else [.text cs]

/-- The parts from a position on. Of the characters, `skip` belong to a tag
that was read; `slashes` backslashes and the text `acc`, last character
first, stand in front. -/
def partsFrom (position skip slashes : Nat) (acc : List Char) : List Char → List Part
  | [] => textPart (unescape (List.replicate slashes '\\' ++ acc).reverse)
  | c :: rest =>
    match skip with
    | skip + 1 => partsFrom (position + 1) skip 0 [] rest
    | 0 =>
      if c = '\\' then partsFrom (position + 1) 0 (slashes + 1) acc rest
      else
        match if c = '[' then tagText? rest else none with
        | some text =>
          textPart (unescape acc.reverse) ++ textPart (List.replicate (slashes / 2) '\\') ++
            (if slashes % 2 = 1 then .text ('[' :: text ++ [']'])
              else .tag position (.ofText text)) ::
            partsFrom (position + 1) (text.length + 1) 0 [] rest
        | none => partsFrom (position + 1) 0 0 (c :: (List.replicate slashes '\\' ++ acc)) rest

/-- The parts of a text with tags. -/
def parts (cs : List Char) : List Part :=
  partsFrom 0 0 0 [] cs

/-! ## The plain text -/

/-- Why a text with tags is not shown. -/
inductive MarkupError where
  /-- A tag closes a style that is not open. -/
  | notOpen (tag : String) (position : Nat)
  /-- A tag closes the last style, and none is open. -/
  | nothingOpen (position : Nat)
  /-- A tag has a color of which a part is left empty. -/
  | emptyColorPart
  /-- A surrogate stands alone in the text. -/
  | loneSurrogate
  /-- Anything else, with the reason. -/
  | other (reason : String)
  deriving Repr, DecidableEq

/-- The wording of an error. -/
def MarkupError.message : MarkupError → String
  | notOpen tag position =>
    "closing tag '" ++ tag ++ "' at position " ++ toString position ++
      " doesn't match any open tag"
  | nothingOpen position =>
    "closing tag '[/]' at position " ++ toString position ++ " has nothing to close"
  | emptyColorPart => "invalid literal for int() with base 10: ''"
  | loneSurrogate => "surrogates not allowed"
  | other reason => reason

/-- A character that terminals act on instead of showing it. -/
def isTerminalControl (c : Char) : Bool :=
  c == '\x07' || c == '\x08' || c == '\x0b' || c == '\x0c' || c == '\r'

/-- The style that a tag names. -/
def styleName (name : List Char) : Except MarkupError String :=
  (normalName? name).elim (.error .emptyColorPart) .ok

/-- The styles that are open behind a tag, the last one first. -/
def stylesBehind (opened : List String) (position : Nat) (t : Tag) :
    Except MarkupError (List String) :=
  match t.closes? with
  | none => (styleName t.name).map (· :: opened)
  | some [] =>
    match opened with
    | [] => .error (.nothingOpen position)
    | _ :: rest => .ok rest
  | some name =>
    (styleName name).bind fun style =>
      if opened.contains style then .ok (opened.erase style)
      else .error (.notOpen t.text position)

/-- The plain text of parts while styles are open. -/
def plainFrom (opened : List String) : List Part → Except MarkupError (List Char)
  | [] => .ok []
  | .text cs :: rest =>
    (plainFrom opened rest).map ((expandEmoji cs).filter (!isTerminalControl ·) ++ ·)
  | .tag position t :: rest =>
    (stylesBehind opened position t).bind fun opened => plainFrom opened rest

/-- The style that a tag opens, with its parameter, can be read. -/
def Tag.checkStyle (t : Tag) : Except MarkupError Unit :=
  match t.closes?, t.parameters with
  | none, some parameters => (styleName (t.name ++ ' ' :: parameters)).map fun _ => ()
  | _, _ => .ok ()

/-- The styles that tags open can be read. -/
def checkStyles : List Part → Except MarkupError Unit
  | [] => .ok ()
  | .text _ :: rest => checkStyles rest
  | .tag _ t :: rest => t.checkStyle.bind fun _ => checkStyles rest

/-- A surrogate stands alone in a text. -/
def Part.hasLoneSurrogate : Part → Bool
  | .text cs => cs.any Text.isLoneSurrogate
  | .tag _ _ => false

/-- The plain text in a text with tags. -/
def plain (cs : List Char) : Except MarkupError (List Char) := do
  let ps := parts cs
  let text ← plainFrom [] ps
  checkStyles ps
  if ps.any Part.hasLoneSurrogate then .error .loneSurrogate else .ok text

/-- What is shown of texts with markup. -/
abbrev Reader := List Char → Except MarkupError (List Char)

end ManifestDeps.Markup
