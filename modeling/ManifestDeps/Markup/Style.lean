/-
ManifestDeps.Markup.Style — the names of styles in markup.

A style is written in words: switches such as `bold` or its short form `b`,
`not` in front of a switch, a color, `on` in front of the color of the
background, and `link` in front of an address. Two writings of the same
style have the same normal form; words that make no style stand for
themselves. The one thing that is an error is a color by its parts, as in
`rgb(1,2,3)`, of which a part is left empty.
-/
import ManifestDeps.Json.Reader
import ManifestDeps.Text.Blank
import ManifestDeps.Text.CaseMap
import ManifestDeps.Text.DecimalDigit

namespace ManifestDeps.Markup

open Json (isDigit)

/-- The switches of a style, in the order of the normal form. -/
def switchNames : List String :=
  ["bold", "dim", "italic", "underline", "blink", "blink2", "reverse", "conceal", "strike",
    "underline2", "frame", "encircle", "overline"]

/-- Short names of switches. -/
def shortSwitchNames : List (String × String) :=
  [("d", "dim"), ("b", "bold"), ("i", "italic"), ("u", "underline"), ("r", "reverse"),
    ("c", "conceal"), ("s", "strike"), ("uu", "underline2"), ("o", "overline")]

/-- The switch of a word. -/
def switch? (word : String) : Option String :=
  if switchNames.contains word then some word else shortSwitchNames.lookup word

/-- The names of colors. -/
def colorNames : List String := ["default",
  "black", "red", "green", "yellow", "blue", "magenta", "cyan", "white", "bright_black",
  "bright_red", "bright_green", "bright_yellow", "bright_blue", "bright_magenta", "bright_cyan",
  "bright_white", "grey0", "gray0", "navy_blue", "dark_blue", "blue3", "blue1", "dark_green",
  "deep_sky_blue4", "dodger_blue3", "dodger_blue2", "green4", "spring_green4", "turquoise4",
  "deep_sky_blue3", "dodger_blue1", "green3", "spring_green3", "dark_cyan", "light_sea_green",
  "deep_sky_blue2", "deep_sky_blue1", "spring_green2", "cyan3", "dark_turquoise", "turquoise2",
  "green1", "spring_green1", "medium_spring_green", "cyan2", "cyan1", "dark_red", "deep_pink4",
  "purple4", "purple3", "blue_violet", "orange4", "grey37", "gray37", "medium_purple4",
  "slate_blue3", "royal_blue1", "chartreuse4", "dark_sea_green4", "pale_turquoise4",
  "steel_blue", "steel_blue3", "cornflower_blue", "chartreuse3", "cadet_blue", "sky_blue3",
  "steel_blue1", "pale_green3", "sea_green3", "aquamarine3", "medium_turquoise", "chartreuse2",
  "sea_green2", "sea_green1", "aquamarine1", "dark_slate_gray2", "dark_magenta", "dark_violet",
  "purple", "light_pink4", "plum4", "medium_purple3", "slate_blue1", "yellow4", "wheat4",
  "grey53", "gray53", "light_slate_grey", "light_slate_gray", "medium_purple",
  "light_slate_blue", "dark_olive_green3", "dark_sea_green", "light_sky_blue3", "sky_blue2",
  "dark_sea_green3", "dark_slate_gray3", "sky_blue1", "chartreuse1", "light_green",
  "pale_green1", "dark_slate_gray1", "red3", "medium_violet_red", "magenta3", "dark_orange3",
  "indian_red", "hot_pink3", "medium_orchid3", "medium_orchid", "medium_purple2",
  "dark_goldenrod", "light_salmon3", "rosy_brown", "grey63", "gray63", "medium_purple1", "gold3",
  "dark_khaki", "navajo_white3", "grey69", "gray69", "light_steel_blue3", "light_steel_blue",
  "yellow3", "dark_sea_green2", "light_cyan3", "light_sky_blue1", "green_yellow",
  "dark_olive_green2", "dark_sea_green1", "pale_turquoise1", "deep_pink3", "magenta2",
  "hot_pink2", "orchid", "medium_orchid1", "orange3", "light_pink3", "pink3", "plum3", "violet",
  "light_goldenrod3", "tan", "misty_rose3", "thistle3", "plum2", "khaki3", "light_goldenrod2",
  "light_yellow3", "grey84", "gray84", "light_steel_blue1", "yellow2", "dark_olive_green1",
  "honeydew2", "light_cyan1", "red1", "deep_pink2", "deep_pink1", "magenta1", "orange_red1",
  "indian_red1", "hot_pink", "dark_orange", "salmon1", "light_coral", "pale_violet_red1",
  "orchid2", "orchid1", "orange1", "sandy_brown", "light_salmon1", "light_pink1", "pink1",
  "plum1", "gold1", "navajo_white1", "misty_rose1", "thistle1", "yellow1", "light_goldenrod1",
  "khaki1", "wheat1", "cornsilk1", "grey100", "gray100", "grey3", "gray3", "grey7", "gray7",
  "grey11", "gray11", "grey15", "gray15", "grey19", "gray19", "grey23", "gray23", "grey27",
  "gray27", "grey30", "gray30", "grey35", "gray35", "grey39", "gray39", "grey42", "gray42",
  "grey46", "gray46", "grey50", "gray50", "grey54", "gray54", "grey58", "gray58", "grey62",
  "gray62", "grey66", "gray66", "grey70", "gray70", "grey74", "gray74", "grey78", "gray78",
  "grey82", "gray82", "grey85", "gray85", "grey89", "gray89", "grey93", "gray93"]

/-- A digit of a color in hexadecimal form, in lower case. -/
def isLowerHexDigit (c : Char) : Bool :=
  isDigit c || ('a' ≤ c && c ≤ 'f')

/-- The parts of a text between commas, at least one. -/
def splitCommas : List Char → List (List Char)
  | [] => [[]]
  | c :: rest =>
    match splitCommas rest with
    | [] => []
    | part :: parts => if c = ',' then [] :: part :: parts else (c :: part) :: parts

/-- Digits of a number up to 255. -/
def isByteText (cs : List Char) : Bool :=
  !cs.isEmpty && cs.all isDigit && Json.digitsValue cs ≤ 255

/-- The text between an opening, such as `rgb(`, and a final bracket. -/
def between? (opening : List Char) (cs : List Char) : Option (List Char) :=
  if opening.isPrefixOf cs && cs.getLast? == some ')' then
    some ((cs.drop opening.length).dropLast)
  else none

/-- Why words are no style. -/
inductive StyleError where
  /-- A word means nothing. -/
  | unknownWord
  /-- A part of a color is left empty. -/
  | emptyPart
  deriving Repr, DecidableEq

/-- The parts of a color are three numbers up to 255, with digits of any
script. Of three parts none may be empty. -/
def checkParts (body : List Char) : Except StyleError Unit :=
  let body := body.map Text.toAsciiDigit
  let parts := splitCommas body
  if !body.all (fun c => isDigit c || c == ',') || parts.length ≠ 3 then .error .unknownWord
  else if parts.any List.isEmpty then .error .emptyPart
  else if parts.all isByteText then .ok ()
  else .error .unknownWord

/-- Read a word, in lower case, that names a color or gives its number or its
parts; it stands for itself. -/
def readColor (word : String) : Except StyleError String :=
  if colorNames.contains word then .ok word
  else
    match word.toList with
    | '#' :: ds =>
      if ds.length == 6 && ds.all isLowerHexDigit then .ok word else .error .unknownWord
    | cs =>
      match between? "color(".toList cs, between? "rgb(".toList cs with
      | some n, _ => if n.length ≤ 3 && isByteText n then .ok word else .error .unknownWord
      | none, some body => (checkParts body).map fun _ => word
      | none, none => .error .unknownWord

/-- A style. -/
structure Style where
  /-- Switches that are set, with their values. -/
  switches : List (String × Bool) := []
  color : Option String := none
  background : Option String := none
  link : Option String := none

namespace Style

/-- Turn a switch on or off. -/
def set (s : Style) (switch : String) (value : Bool) : Style :=
  { s with switches := (switch, value) :: s.switches }

/-- Read a word that is not followed by another one of its own. -/
def readOne (s : Style) (word : String) : Except StyleError Style :=
  let word := Text.lower word
  match switch? word with
  | some n => .ok (s.set n true)
  | none => (readColor word).map fun color => { s with color := some color }

/-- Read the words of a style. -/
def read (s : Style) : List String → Except StyleError Style
  | [] => .ok s
  | [word] => s.readOne word
  | word :: next :: rest =>
    match Text.lower word with
    | "on" =>
      (readColor (Text.lower next)).bind fun color =>
        read { s with background := some color } rest
    | "not" =>
      match switch? next with
      | some n => read (s.set n false) rest
      | none => .error .unknownWord
    | "link" => read { s with link := some next } rest
    | _ => (s.readOne word).bind fun s => read s (next :: rest)

/-- The words of the normal form. -/
def normalWords (s : Style) : List String :=
  (switchNames.filterMap fun n =>
      (s.switches.lookup n).map fun value => if value then n else "not " ++ n)
    ++ s.color.toList
    ++ (s.background.map ("on " ++ ·)).toList
    ++ (s.link.map ("link " ++ ·)).toList

/-- The normal form of a style. -/
def normal (s : Style) : String :=
  match s.normalWords with
  | [] => "none"
  | ws => " ".intercalate ws

end Style

/-- The normal form of the name of a style; none if it leaves a part of a
color empty. -/
def normalName? (name : List Char) : Option String :=
  let trimmed := String.ofList (Text.trim Text.isBlank name)
  if trimmed = "none" then some "none"
  else
    match Style.read {} (Text.blankSplit [] name) with
    | .ok s => some s.normal
    | .error .unknownWord => some (Text.lower trimmed)
    | .error .emptyPart => none

end ManifestDeps.Markup
