import PgVitals.Monitor.Field
import PgVitals.Statement
/-!
# Records

A record holds one value for each field of its kind. Records are made from rows in the order of the
columns, or, where the order of the columns is not known, by their names.

* `RecordKind` are the fields, and whether a sample holds one record for each row.
* `RecordKind.ofRow` reads a row in the order of the fields: cells beyond the fields are passed
  over, and fields beyond the cells are zero.
* `RecordKind.ofNamedRows` reads a result set by the names of its columns: each field is the total
  of the column of its name, and zero where there is none.

A null counts as zero where a number is expected, and as an empty text where a text is. Of several
columns with one name the last counts.
-/

namespace PgVitals.Monitor

/-- A value of a record. -/
inductive Reading where
  | whole (n : Int)
  | fractional (x : Float)
  | text (s : String)
deriving Inhabited

/-- A reading as a value. -/
def Reading.value : Reading → Value
  | whole n => .int n
  | fractional x => .float x
  | text s => .text s

/-- The fields of a record, and whether a sample holds one record for each row. -/
structure RecordKind where
  fields : List Field
  multirow : Bool := false
deriving Inhabited

/-- One value for each field. -/
abbrev Record := List Reading

/-- The value of a field nothing is known of. -/
def FieldKind.zero : FieldKind → Reading
  | timer => .fractional 0.0
  | text => .text ""
  | _ => .whole 0

/-- The number in a cell; null counts as zero. -/
def number (kind : FieldKind) (cell : Value) : Except Fault Reading :=
  match kind, cell with
  | .timer, .null => .ok (.fractional 0.0)
  | .timer, v => v.toFloat.map .fractional
  | _, .null => .ok (.whole 0)
  | _, v => v.toInt.map .whole

/-- What a cell holds for a field. -/
def reading (kind : FieldKind) (cell : Value) : Except Fault Reading :=
  match kind, cell with
  | .text, .null => .ok (.text "")
  | .text, v => v.written.map .text
  | kind, v => number kind v

namespace RecordKind

/-- The names of the fields. -/
def names (k : RecordKind) : List String := k.fields.map Field.name

/-- A record of nothing. -/
def zero (k : RecordKind) : Record := k.fields.map fun f => f.kind.zero

/-- Reads a row in the order of the fields. Cells beyond the fields are passed over, and fields
beyond the cells are zero. -/
def readCells : List Field → List Value → Except Fault Record
  | [], _ => .ok []
  | f :: fields, [] => .ok (f.kind.zero :: fields.map fun g => g.kind.zero)
  | f :: fields, cell :: cells => do
    let r ← reading f.kind cell
    let rest ← readCells fields cells
    return r :: rest

/-- The record of a row. -/
def ofRow (k : RecordKind) (row : List Value) : Except Fault Record := readCells k.fields row

/-- The sum of two numbers of one kind. -/
def add : Reading → Reading → Reading
  | .whole a, .whole b => .whole (a + b)
  | .fractional a, .fractional b => .fractional (a + b)
  | a, _ => a

/-- What totals start from: texts are counted like numbers here. -/
def totalZero : FieldKind → Reading
  | .timer => .fractional 0.0
  | _ => .whole 0

/-- The total of a column. -/
def total (kind : FieldKind) (position : Nat) :
    Reading → List (List Value) → Except Fault Reading
  | sum, [] => .ok sum
  | sum, row :: rows => do
    match row[position]? with
    | none => throw .missingItem
    | some cell => total kind position (add sum (← number kind cell)) rows

/-- The position of a column; of columns with one name the last. -/
def lastPosition? (name : String) (columns : List String) : Option Nat :=
  (columns.reverse.findIdx? fun c => c == name).map fun i => columns.length - 1 - i

/-- The record of a result set: each field is the total of the column of its name, and zero where
there is none. -/
def ofNamedRows (k : RecordKind) (set : ResultSet) : Except Fault Record :=
  k.fields.mapM fun f =>
    match lastPosition? f.name set.columns with
    | none => .ok (totalZero f.kind)
    | some position => total f.kind position (totalZero f.kind) set.rows

end RecordKind

end PgVitals.Monitor
