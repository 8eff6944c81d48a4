/-
ManifestDeps.Markup.Emoji — names of emoji between colons, as in `:bug:`.

A name may end in `-text` or `-emoji`, which asks for one of the two ways
to show the character. What is no name stays as it is.
-/
import ManifestDeps.Json.Reader
import ManifestDeps.Markup.EmojiTable
import ManifestDeps.Text.Blank
import ManifestDeps.Text.CaseMap

namespace ManifestDeps.Markup

/-- Characters by their code points, which have hyphens between them; `n` is
the current one. -/
def codePoints (n : Nat) : List Char → List Char
  | [] => [Char.ofNat n]
  | c :: rest =>
    match Json.hexValue? c with
    | some d => codePoints (n * 16 + d) rest
    | none => Char.ofNat n :: codePoints 0 rest

/-- The emoji of a name. -/
def emoji? (name : List Char) : Option (List Char) :=
  let key := (Text.lower (String.ofList name)).toList ++ ['=']
  (Text.blankSplit [] emojiTable.toList).findSome? fun entry =>
    if key.isPrefixOf entry.toList then some (codePoints 0 (entry.toList.drop key.length))
    else none

/-- A name without its ending, and the character that the ending adds. -/
def splitVariant (name : List Char) : List Char × List Char :=
  let ending (s : String) : Bool := s.toList.isSuffixOf name
  if ending "-emoji" then (name.take (name.length - 6), ['\ufe0f'])
  else if ending "-text" then (name.take (name.length - 5), ['\ufe0e'])
  else (name, [])

/-- The text up to the next colon, unless there is a blank before it. -/
def untilColon? : List Char → Option (List Char)
  | [] => none
  | c :: rest =>
    if c = ':' then some []
    else if Text.isBlank c then none
    else (untilColon? rest).map (c :: ·)

/-- What stands for a name between colons. -/
def nameText (name : List Char) : List Char :=
  let (plain, variant) := splitVariant name
  match emoji? plain with
  | some cs => cs ++ variant
  | none => ':' :: name ++ [':']

/-- The text with emoji for their names, behind `skip` characters that
belong to a name. -/
def expandFrom (skip : Nat) : List Char → List Char
  | [] => []
  | c :: rest =>
    match skip with
    | skip + 1 => expandFrom skip rest
    | 0 =>
      match if c = ':' then untilColon? rest else none with
      | some name => nameText name ++ expandFrom (name.length + 1) rest
      | none => c :: expandFrom 0 rest

/-- The text with emoji for their names. -/
def expandEmoji (cs : List Char) : List Char :=
  expandFrom 0 cs

end ManifestDeps.Markup
