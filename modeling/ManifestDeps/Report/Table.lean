/-
ManifestDeps.Report.Table — the dependencies of a component as a table for
a terminal.

The table has the columns `Module` and `Dependency` inside a frame, with
the title centered above it. It takes at most the width of the terminal;
the column of modules gives way, its cells are broken between words, and a
word that does not fit ends in an ellipsis. Title and cells are texts with
markup.
-/
import ManifestDeps.DependencySet
import ManifestDeps.Markup.Basic
import ManifestDeps.Text.Wrap

namespace ManifestDeps

open Markup (MarkupError)
open Text (cells)

/-- Cells in a line of the terminal. -/
def terminalWidth : Nat := 80

/-- Characters at which lines end when a text is measured. -/
def isLineEnd (c : Char) : Bool :=
  let n := c.toNat
  (10 ≤ n && n ≤ 13) || (0x1c ≤ n && n ≤ 0x1e) || n == 0x85 || n == 0x2028 || n == 0x2029

/-- Cells of the widest line of a text; `used` cells stand in front. -/
def widestLine (used : Nat) : List Char → Nat
  | [] => used
  | c :: rest =>
    if isLineEnd c then max used (widestLine 0 rest)
    else widestLine (used + Text.charCells c) rest

/-! ## The frame -/

/-- A rule of the frame: its ends, its middle, and what it is drawn with. -/
structure FrameRule where
  left : Char
  fill : Char
  middle : Char
  right : Char

namespace FrameRule

def top : FrameRule := ⟨'┏', '━', '┳', '┓'⟩
def belowHead : FrameRule := ⟨'┡', '━', '╇', '┩'⟩
def bottom : FrameRule := ⟨'└', '─', '┴', '┘'⟩

/-- A rule over two columns, whose padding takes a cell on each side. -/
def draw (r : FrameRule) (first second : Nat) : List Char :=
  r.left :: List.replicate (first + 2) r.fill ++
    r.middle :: List.replicate (second + 2) r.fill ++ [r.right]

end FrameRule

/-- A line of a row between bars. -/
def rowLine (bar : Char) (first second : List Char) : List Char :=
  bar :: ' ' :: first ++ [' ', bar, ' '] ++ second ++ [' ', bar]

/-- The lines of a cell, as wide as its column. -/
def cellLines (width : Nat) (text : List Char) : List (List Char) :=
  (Text.linesOf text).flatMap fun line =>
    (Text.wrap width .ellipsis line).map fun l =>
      Text.padEnd width (Text.shorten width .ellipsis l)

/-- The lines of a row; the second cell has one line. -/
def rowLines (bar : Char) (width : Nat) (first : List (List Char)) (second : List Char) :
    List (List Char) :=
  match first with
  | [] => []
  | line :: rest =>
    rowLine bar line (Text.padEnd width second) ::
      rest.map fun l => rowLine bar l (Text.padEnd width [])

/-- The lines of a title, each in the middle. -/
def titleLines (width : Nat) (title : List Char) : List (List Char) :=
  (Text.linesOf title).flatMap fun line =>
    (Text.wrap width .fold line).map fun l =>
      Text.center width (Text.shorten width .fold (Text.trimEnd Text.isBlank l))

/-! ## The table -/

/-- Cells that the frame of two columns and their padding take. -/
def frameCells : Nat := 7

/-- The widths of the columns for the cells of the first one and the texts of
the second. -/
def columnWidths (modules : List (List Char)) (strengths : List (List Char)) : Nat × Nat :=
  let widest (head : String) (texts : List (List Char)) : Nat :=
    (texts.map (widestLine 0)).foldl max head.length
  let second := widest "Dependency" strengths
  (min (widest "Module" modules) (terminalWidth - frameCells - second), second)

/-- The lines of the table of a component. -/
def dependencyTable (shown : Markup.Reader) (title : String)
    (dependencies : List (String × Strength)) : Except MarkupError (List (List Char)) := do
  let modules ← dependencies.mapM fun d => shown d.1.toList
  let heading ← shown title.toList
  let strengths := dependencies.map fun d => d.2.name.toList
  let (first, second) := columnWidths modules strengths
  let width := first + second + frameCells
  let head := rowLines '┃' second (cellLines first "Module".toList) "Dependency".toList
  let rows := List.zipWith
    (fun m s => rowLines '│' second (cellLines first m) s) modules strengths
  pure ((if title = "" then [] else titleLines width heading) ++
    [FrameRule.top.draw first second] ++ head ++ [FrameRule.belowHead.draw first second] ++
    rows.flatten ++ [FrameRule.bottom.draw first second])

/-- The lines of a text with markup, broken at the width of the terminal. -/
def printedLines (shown : Markup.Reader) (text : String) :
    Except MarkupError (List (List Char)) :=
  (shown text.toList).map fun cs =>
    (Text.linesOf cs).flatMap fun line =>
      (Text.wrap terminalWidth .fold line).map (Text.shorten terminalWidth .fold)

end ManifestDeps
