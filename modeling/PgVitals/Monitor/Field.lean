import PgVitals.Text.Layout
import PgVitals.Value
/-!
# Fields of a sample

A sample of the monitor is a list of numbers and texts, one for each field of its domain. A field
says how its values are treated between two samples and how they are shown.
-/

namespace PgVitals.Monitor

open PgVitals.Text

/-- How a field behaves between two samples. -/
inductive FieldKind where
  /-- Shown as the difference to the sample before. -/
  | counter
  /-- A counter of fractional milliseconds. -/
  | timer
  /-- Shown as read. -/
  | gauge
  /-- A text, shown as read. -/
  | text
deriving DecidableEq, Inhabited

/-- Whether values are subtracted between two samples. -/
def FieldKind.isCounter : FieldKind → Bool
  | counter => true
  | timer => true
  | _ => false

/-- A field of a sample. -/
structure Field where
  name : String
  /-- The text above its column. -/
  label : String
  /-- The title above a run of columns. -/
  group : String
  kind : FieldKind
  /-- The least width of its column. -/
  minWidth : Nat
  unit : Option String
deriving DecidableEq, Inhabited

namespace Field

/-- A counter. -/
def counter (name label group : String) (minWidth : Nat := 7) (unit : Option String := none) :
    Field :=
  ⟨name, label, group, .counter, minWidth, unit⟩

/-- A counter of fractional milliseconds. -/
def timer (name label group : String) (minWidth : Nat := 10) : Field :=
  ⟨name, label, group, .timer, minWidth, none⟩

/-- A value shown as read. -/
def gauge (name label group : String) (minWidth : Nat := 7) (unit : Option String := none) :
    Field :=
  ⟨name, label, group, .gauge, minWidth, unit⟩

/-- A text shown as read. -/
def text (name label group : String) (minWidth : Nat := 12) : Field :=
  ⟨name, label, group, .text, minWidth, none⟩

/-- The width of a column: wide enough for its label. -/
def width (f : Field) : Nat := max f.minWidth (Text.width f.label)

/-- Whether a field counts bytes. -/
def isBytes (f : Field) : Bool := f.unit == some "bytes"

/-- Whether values have a fraction. -/
def isFractional (f : Field) : Bool := f.kind == .timer

end Field

end PgVitals.Monitor
