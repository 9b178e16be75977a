import PgVitals.Table.Cell
import PgVitals.Text.Layout
import PgVitals.Text.Split
/-!
# Ruled tables

A table is drawn between rules, each cell with a blank on both sides. Numbers have their decimal
points below one another, and their headers end where they end; everything else begins at the left.
A column is wider than its header by two. Where any text has several lines, every row is as high as
its highest cell. A row may stand for one more rule.

* `Style` is how a table is drawn; `dashed` and `boxed` are the two that are used.
* `Column.make` brings the texts of a column to one width, and `prepare` puts decimal points below
  one another.
* `draw` draws the lines, and `render` is a table of values with a title over each column.

Widths are those that a terminal shows, without escapes, and each character counts as one. Several
oddities are kept because they can be seen: a row whose first cell is a certain mark is drawn as a
rule, and lines within escapes take their length from the part at their place.
-/

namespace PgVitals.Table

open PgVitals.Text PgVitals.Number

/-! ## Styles -/

/-- A line across the table: its ends, what it is made of, and where it meets the columns. -/
structure Rule where
  left : String
  fill : Char
  cross : String
  right : String

/-- How a table is drawn, and how its fractional numbers are written. -/
structure Style where
  above : Rule
  belowHeader : Rule
  below : Rule
  bar : String
  numberText : Float → String

/-- Drawn with dashes, bars and plus signs. -/
def dashed : Style where
  above := ⟨"+", '-', "+", "+"⟩
  belowHeader := ⟨"|", '-', "+", "|"⟩
  below := ⟨"+", '-', "+", "+"⟩
  bar := "|"
  numberText := generalText

/-- Drawn with box characters; numbers have two places. -/
def boxed : Style where
  above := ⟨"┌", '─', "┬", "┐"⟩
  belowHeader := ⟨"├", '─', "┼", "┤"⟩
  below := ⟨"└", '─', "┴", "┘"⟩
  bar := "│"
  numberText := fixedText 2

/-! ## Widths -/

/-- Whether a text is broken into lines. -/
def hasBreak (s : String) : Bool := s.toList.any fun c => c == '\n' || c == '\r'

/-- The parts of a text between its breaks. -/
def parts (s : String) : List String :=
  (splitBy (fun c => c == '\n' || c == '\r') s.toList).map String.ofList

/-- The width of a text in the table: that of its widest line. -/
def cellWidth (broken : Bool) (s : String) : Nat :=
  if broken then ((parts s).map visibleWidth).foldl max 0 else visibleWidth s

/-- The number of characters behind the decimal point and the point, or else behind the mark of the
exponent and the mark. Whole numbers and other texts have none. -/
def fractionWidth (s : String) : Nat :=
  if (isNumber s || isGrouped s) && !isWhole s then
    let behind := s.toList.reverse
    let point := (behind.takeWhile (· != '.')).length
    if point < behind.length then point + 1
    else
      let mark := (behind.takeWhile fun c => c != 'e' && c != 'E').length
      if mark < behind.length then mark + 1 else 0
  else 0

/-! ## Columns -/

/-- A column ready to be drawn, with all its cells brought to one width. -/
structure Column where
  width : Nat
  numeric : Bool
  cells : List String

/-- Brings a line to a length. -/
def fill (numeric : Bool) (length : Nat) (line : String) : String :=
  if numeric then padLeft line length else padRight line length

/-- Brings a line to a width as a terminal shows it. -/
def pad (numeric : Bool) (width : Nat) (line : String) : String :=
  fill numeric (width + invisibleWidth line) line

/-- Lines as one text. -/
def joinLines (lines : List String) : String := String.intercalate "\n" lines

/-- The lines of a text, brought to a width. Among terminal escapes a line takes its length from the
part at its place, and lines beyond the parts are left out. -/
def padLines (escapes numeric : Bool) (width : Nat) (s : String) : List String :=
  if escapes then
    (lines s).zipWith (fun line part => fill numeric (width + invisibleWidth part) line) (parts s)
  else (lines s).map (fill numeric width)

/-- Cells with their decimal points below one another, or without blanks at their ends. -/
def prepare (numeric : Bool) (texts : List String) : List String :=
  if numeric then
    let places := texts.map fun s => fractionWidth (visible s)
    let most := places.foldl max 0
    texts.zipWith (fun s n => s ++ repeated (most - n) ' ') places
  else texts.map trim

/-- A column of texts that is at least so wide. Lines that were brought to a width may show wider
than that, if escapes begin in one line and end in another. -/
def Column.make (broken escapes numeric : Bool) (least : Nat) (texts : List String) : Column :=
  let texts := prepare numeric texts
  let wanted := (texts.map (cellWidth broken)).foldl max least
  let cells := texts.map fun s =>
    if broken then joinLines (padLines escapes numeric wanted s) else pad numeric wanted s
  ⟨(cells.map (cellWidth broken)).foldl max least, numeric, cells⟩

/-- A header brought to the width of its column. -/
def Column.header (broken : Bool) (column : Column) (title : String) : String :=
  joinLines ((if broken then parts title else [title]).map (pad column.numeric column.width))

/-! ## Drawing -/

/-- The line of a rule. -/
def Rule.line (rule : Rule) (widths : List Nat) : String :=
  rule.left ++ String.intercalate rule.cross (widths.map fun w => repeated (w + 2) rule.fill) ++
    rule.right

/-- A row of cells, over as many lines as the highest of them. -/
def rowLines (style : Style) (broken : Bool) (widths : List Nat) (cells : List String) :
    List String :=
  let cells := cells.map fun s => if broken then lines s else [s]
  let height := (cells.map List.length).foldl max 0
  (List.range height).map fun i =>
    let line := cells.zipWith (fun cell w => (cell[i]?).getD (repeated w ' ')) widths
    style.bar ++ " " ++ String.intercalate (" " ++ style.bar ++ " ") line ++ " " ++ style.bar

/-- The cells of each row. -/
def rowsOf (count : Nat) (columns : List Column) : List (List String) :=
  (List.range count).map fun i => columns.map fun c => (c.cells[i]?).getD ""

/-- Rows with a rule in each place that is marked. -/
def withRules (rule : String) : List Bool → List (List String) → List String
  | [], rows => rows.flatten
  | true :: marks, rows => rule :: withRules rule marks rows
  | false :: marks, row :: rows => row ++ withRules rule marks rows
  | false :: marks, [] => withRules rule marks []

/-- Draws a table; `marks` tells which of its rows are rules. Without titles and rows there is
nothing to draw. -/
def draw (style : Style) (broken : Bool) (titles : List String) (marks : List Bool)
    (columns : List Column) : String :=
  let widths := columns.map Column.width
  let rule := style.belowHeader.line widths
  let header :=
    if titles.isEmpty then []
    else
      rowLines style broken widths (columns.zipWith (fun c t => c.header broken t) titles) ++ [rule]
  let rows := if columns.isEmpty then [] else rowsOf (marks.count false) columns
  let body := withRules rule marks (rows.map (rowLines style broken widths))
  if columns.isEmpty && !marks.contains true then ""
  else joinLines ([style.above.line widths] ++ header ++ body ++ [style.below.line widths])

/-! ## Tables -/

/-- Titles for every column of the first row: those that lack one are the first. -/
def extendTitles (titles : List String) (rows : List (List Value)) : List String :=
  match titles, rows with
  | _ :: _, row :: _ => List.replicate (row.length - titles.length) "" ++ titles
  | _, _ => titles

/-- The number of cells of the longest row. -/
def columnCount (rows : List (List Value)) : Nat := (rows.map List.length).foldl max 0

/-- The cells of each column; short rows end in nulls. -/
def columnsOf (rows : List (List Value)) : List (List Value) :=
  (List.range (columnCount rows)).map fun i => rows.map fun row => (row[i]?).getD .null

/-- The mark that makes a rule of a row. -/
def ruleMark : String := "\x01"

/-- Whether a row stands for a rule: its first or second cell is the mark. -/
def isRule (row : List Value) : Bool :=
  (row.take 2).any fun
    | .text s => trim s == ruleMark
    | _ => false

/-- A column of cells, its kind and the texts of its cells. -/
def textsOf (style : Style) (escapes : Bool) (cells : List Value) :
    Except Fault (Kind × List String) := do
  let kind := Kind.ofColumn cells
  return (kind, ← cells.mapM (cellText style.numberText escapes kind))

/-- A table with a title over each column. Columns beyond the titles are left out. -/
def render (style : Style) (titles : List String) (rows : List (List Value)) :
    Except Fault String := do
  let titles := extendTitles titles rows
  let marks := rows.map isRule
  let rows := rows.filter fun row => !isRule row
  let all := String.intercalate "\t" (titles ++ (← rows.flatten.mapM Value.written))
  let escapes := hasEscapes all
  let broken := hasBreak all
  let columns ← (columnsOf rows).mapM (textsOf style escapes)
  let least := titles.map fun t => cellWidth broken t + 2
  if titles.isEmpty then
    return draw style broken [] marks
      (columns.map fun c => .make broken escapes c.1.isNumeric 0 c.2)
  else if columns.isEmpty then
    return draw style broken titles (marks.filter id) (least.map fun w => ⟨w, false, []⟩)
  else
    return draw style broken titles marks
      (columns.zipWith (fun c w => .make broken escapes c.1.isNumeric w c.2) least)

end PgVitals.Table
