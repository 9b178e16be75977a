import PgVitals.Monitor.Record
import PgVitals.Text.Split
import PgVitals.Value.Fixed
/-!
# The columns of the monitor

Each field has a column of fixed width, and a blank stands before every column. Numbers end at the
right edge of their columns and texts begin at the left one. Above the labels stand the titles of
groups of neighbouring columns, filled up with dashes. A cell that is too wide moves what follows.

* `headerLines` are the two lines above the samples, made of `groups` and of labels.
* `cellText` is the text of a value in a column, with two places where the field is fractional, and
  `align` brings it to the width of the column.
* `rowLine` is a line of values, with the sizes that the server wrote in the place of byte counts.

Widths are counted in characters. Blanks at the end of a line are left out, so a line may be shorter
than the columns.
-/

namespace PgVitals.Monitor

open PgVitals.Text PgVitals.Number

/-- A text brought to the width of its column. -/
def align (f : Field) (s : String) : String :=
  if f.kind = .text then padRight s f.width else padLeft s f.width

/-- Cells behind one another, a blank before each, and none at the end of the line. -/
def joinCells (cells : List String) : String :=
  trimEnd (" " ++ String.intercalate " " cells)

/-- A title, and the number of columns of text it spans. -/
structure Group where
  title : String
  span : Nat
deriving DecidableEq

/-- Puts a field in front of the groups of the fields after it. -/
def extendGroups (f : Field) : List Group → List Group
  | g :: rest =>
    if g.title == f.group then ⟨g.title, f.width + 1 + g.span⟩ :: rest
    else ⟨f.group, f.width⟩ :: g :: rest
  | [] => [⟨f.group, f.width⟩]

/-- The groups of neighbouring fields with the same title. -/
def groups (fields : List Field) : List Group := fields.foldr extendGroups []

/-- A title in the middle of its span, between dashes; without a title there are blanks. -/
def Group.text (g : Group) : String :=
  if g.title.isEmpty then repeated g.span ' ' else center '-' (" " ++ g.title ++ " ") g.span

/-- The two lines above the samples: titles and labels. -/
def headerLines (fields : List Field) : List String :=
  [joinCells ((groups fields).map Group.text),
    " " ++ String.intercalate " " (fields.map fun f => align f f.label)]

/-- The text of a value in a column: a text stands as it is, fractional fields have two places. -/
def cellText (f : Field) (v : Value) : Except Fault String :=
  match v with
  | .text s => .ok s
  | v => if f.isFractional then v.fixedText 2 else v.written

/-- A size as the server writes it, which has to be a text. -/
def sizeText : Value → Except Fault String
  | .text s => .ok s
  | _ => .error .missingPart

/-- The sizes that the server wrote for some fields, by the names of the fields. -/
abbrev Sizes := List (String × Value)

/-- The cell of a field: the server's text where there is one. -/
def cellFor (sizes : Sizes) (f : Field) (v : Value) : Except Fault String :=
  match sizes.lookup f.name with
  | some size => do return align f (← sizeText size)
  | none => do return align f (← cellText f v)

/-- The cells of a line, in the order of the fields. -/
def cells (sizes : Sizes) : List Field → List Value → Except Fault (List String)
  | f :: fields, v :: values => do
    let cell ← cellFor sizes f v
    let rest ← cells sizes fields values
    return cell :: rest
  | _, _ => .ok []

/-- A line of values. -/
def rowLine (fields : List Field) (values : List Value) (sizes : Sizes) : Except Fault String := do
  return joinCells (← cells sizes fields values)

end PgVitals.Monitor
