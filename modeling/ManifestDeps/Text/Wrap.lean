/-
ManifestDeps.Text.Wrap — breaking a text into lines of a given width.

A line takes as many words as fit, and a word keeps the blanks behind it,
which do not count where a line ends. A word wider than a line either is
cut into pieces or stays whole on a line of its own, which is then
shortened with an ellipsis.
-/
import ManifestDeps.Text.Blank
import ManifestDeps.Text.CellWidth

namespace ManifestDeps.Text

/-! ## Lines and words -/

/-- The lines of a text between its line feeds, at least one. -/
def linesOf : List Char → List (List Char)
  | [] => [[]]
  | c :: rest =>
    if c = '\n' then [] :: linesOf rest
    else
      match linesOf rest with
      | [] => [[c]]
      | line :: lines => (c :: line) :: lines

/-- The part of a word that a scan is in. -/
inductive WordPart where
  | before
  | inside
  | behind
  deriving DecidableEq

/-- The words of a text from somewhere in a word on; `acc` is what the word
has so far, last character first. -/
def wordsFrom (part : WordPart) (acc : List Char) : List Char → List (List Char)
  | [] => if part = .before then [] else [acc.reverse]
  | c :: rest =>
    if isBlank c then wordsFrom (if part = .before then .before else .behind) (c :: acc) rest
    else if part = .behind then acc.reverse :: wordsFrom .inside [c] rest
    else wordsFrom .inside (c :: acc) rest

/-- The words of a text, each with the blanks behind it and the first one
with those in front; a text of blanks has none. -/
def words (cs : List Char) : List (List Char) :=
  wordsFrom .before [] cs

/-- Tabs as blanks up to the next multiple of eight cells. -/
def expandTabs (column : Nat) : List Char → List Char
  | [] => []
  | c :: rest =>
    if c = '\t' then
      let n := 8 - column % 8
      List.replicate n ' ' ++ expandTabs (column + n) rest
    else c :: expandTabs (column + charCells c) rest

/-! ## Filling lines -/

/-- A word in pieces that fit into a width; `acc` is the current piece, last
character first. -/
def piecesFrom (width : Nat) (acc : List Char) (used : Nat) : List Char → List (List Char)
  | [] => [acc.reverse]
  | c :: rest =>
    if width < used + charCells c then
      acc.reverse :: piecesFrom width [c] (charCells c) rest
    else piecesFrom width (c :: acc) (used + charCells c) rest

/-- A word in pieces that fit into a width. -/
def pieces (width : Nat) (word : List Char) : List (List Char) :=
  piecesFrom width [] 0 word

/-- Lines that are being filled. -/
structure Filling where
  /-- The full lines, last one first. -/
  full : List (List Char) := []
  current : List Char := []
  /-- Cells that the current line takes. -/
  used : Nat := 0

namespace Filling

/-- Put a text on a new line, or on the current one if that is empty. -/
def newLine (f : Filling) (text : List Char) : Filling where
  full := if f.current.isEmpty then f.full else f.current :: f.full
  current := text
  used := cells text

/-- Put a text behind the current line. -/
def extend (f : Filling) (text : List Char) : Filling :=
  { f with current := f.current ++ text, used := f.used + cells text }

/-- All lines. -/
def lines (f : Filling) : List (List Char) :=
  (f.current :: f.full).reverse

end Filling

/-- What becomes of text that is wider than its line. -/
inductive Overflow where
  /-- It goes on on the next line. -/
  | fold
  /-- It is cut off and ends in an ellipsis. -/
  | ellipsis
  deriving DecidableEq

/-- Put a word where it fits. -/
def Filling.addWord (width : Nat) (o : Overflow) (f : Filling) (word : List Char) : Filling :=
  let n := cells (trimEnd isBlank word)
  if f.used + n ≤ width then f.extend word
  else if width < n ∧ o = .fold then (pieces width word).foldl newLine f
  else f.newLine word

/-- Break a line between words. -/
def breakLine (width : Nat) (o : Overflow) (line : List Char) : List (List Char) :=
  match words line with
  | [] => [line]
  | ws => (ws.foldl (Filling.addWord width o) {}).lines

/-- A line without the blanks at its end that stand beyond a number of
characters. -/
def trimBeyond (width : Nat) (line : List Char) : List Char :=
  let blanks := (line.reverse.takeWhile isBlank).length
  line.take (line.length - min blanks (line.length - width))

/-- Break a line, with its tabs expanded. -/
def wrap (width : Nat) (o : Overflow) (line : List Char) : List (List Char) :=
  (breakLine width o (expandTabs 0 line)).map (trimBeyond width)

/-! ## Fitting lines -/

/-- The part of a text that takes `total` cells, searched for between two
positions. Where a wide character would go beyond, a blank stands for it. -/
def bisectCells (total : Nat) (cs : List Char) : Nat → Nat → Nat → List Char
  | 0, _, _ => cs.take total
  | rounds + 1, low, high =>
    let middle := (low + high) / 2
    let front := cs.take (middle + 1)
    let n := cells front
    if n = total + 1 ∧ (front.getLast?.map charCells) = some 2 then front.dropLast ++ [' ']
    else if n = total then front
    else if total < n then bisectCells total cs rounds low middle
    else bisectCells total cs rounds middle high

/-- The first `total` cells of a text that takes more. -/
def cropCells (total : Nat) (cs : List Char) : List Char :=
  if total = 0 then [] else bisectCells total cs cs.length 0 cs.length

/-- A line that fits into a width. -/
def shorten (width : Nat) (o : Overflow) (line : List Char) : List Char :=
  if cells line ≤ width then line
  else
    match o with
    | .fold => cropCells width line
    | .ellipsis => cropCells (width - 1) line ++ ['…']

/-- Blanks behind a line up to a width. -/
def padEnd (width : Nat) (line : List Char) : List Char :=
  line ++ List.replicate (width - cells line) ' '

/-- A line between blanks, in the middle of a width or half a cell to the
left. -/
def center (width : Nat) (line : List Char) : List Char :=
  padEnd width (List.replicate ((width - cells line) / 2) ' ' ++ line)

end ManifestDeps.Text
