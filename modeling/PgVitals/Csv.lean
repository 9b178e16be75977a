import PgVitals.Value
import PgVitals.Statement
/-!
# Semicolon-separated files

A result set as lines of text: cells joined by semicolons, one row a line. Nothing is escaped, so a
cell that holds a semicolon or a line feed breaks the layout.

* `Csv.text` is the text of a value in a cell: nothing for null, one letter for a truth value, and
  for all others the text they have on their own. `Csv.cell` is that text where there is one: a
  whole number may have too many digits to be written.
* `Csv.block` are the lines of a result set, with or without a line of column names in front.
* `Csv.writtenRows` and `Csv.verdict` say what becomes of rows that cannot be written. Rows are
  written one after the other, so those in front of the first such row are in the file, and then
  writing fails.

What a file holds is decided by the text alone. That rows can be read back under conditions is
proved in `Proofs/Csv/Decoding`.
-/

namespace PgVitals.Csv

/-- Between the cells of a line. -/
def separator : Char := ';'

/-- At the end of a line. -/
def terminator : Char := '\n'

/-- The text of a cell: nothing for null, one letter for a truth value. -/
def text : Value → String
  | .null => ""
  | .bool b => if b then "t" else "f"
  | v => v.shown

/-- The text of a cell, unless a whole number in it has too many digits. -/
def cell (v : Value) : Except Fault String :=
  if v.isWritable then .ok (text v) else .error .tooLongToWrite

/-- Whether all cells of a row have a text. -/
def isWritable (row : List Value) : Bool := row.all Value.isWritable

/-- Cells as one line. -/
def line (cells : List String) : String :=
  String.intercalate (String.singleton separator) cells ++ String.singleton terminator

/-- The rows in front of the first that cannot be written. -/
def writtenRows (rows : List (List Value)) : List (List Value) := rows.takeWhile isWritable

/-- Whether there is a row that cannot be written. -/
def verdict (rows : List (List Value)) : Except Fault Unit :=
  if rows.all isWritable then .ok () else .error .tooLongToWrite

theorem writtenRows_eq {rows : List (List Value)} (h : rows.all isWritable = true) :
    writtenRows rows = rows := by
  have front : (rows ++ []).takeWhile isWritable = rows ++ [].takeWhile isWritable :=
    List.takeWhile_append_of_pos (List.all_eq_true.mp h)
  simpa [writtenRows] using front

theorem length_writtenRows_lt {rows : List (List Value)} (h : ¬ rows.all isWritable = true) :
    (writtenRows rows).length < rows.length := by
  induction rows with
  | nil => exact absurd rfl h
  | cons row rows ih =>
    rw [writtenRows, List.takeWhile_cons]
    split
    · rename_i first
      exact Nat.succ_lt_succ (ih fun others => h (by rw [List.all_cons, first, others]; rfl))
    · exact Nat.zero_lt_succ _

/-- The lines of rows. -/
def body (rows : List (List Value)) : String :=
  String.join (rows.map fun row => line (row.map text))

@[simp]
theorem body_nil : body [] = "" := rfl

theorem body_append (rows more : List (List Value)) :
    body (rows ++ more) = body rows ++ body more := by
  rw [body, List.map_append, String.join_append, body, body]

/-- A line has an end, so it is never empty. -/
theorem isEmpty_line (cells : List String) : (line cells).isEmpty = false := by
  rw [String.isEmpty_eq_false_iff]
  simp [line]

/-- Rows leave no trace only where there are none. -/
theorem isEmpty_body (rows : List (List Value)) : (body rows).isEmpty = rows.isEmpty := by
  cases rows with
  | nil => rfl
  | cons row rows =>
    have first := isEmpty_line (row.map text)
    rw [String.isEmpty_eq_false_iff] at first
    rw [List.isEmpty_cons, String.isEmpty_eq_false_iff, body, List.map_cons, String.join_cons]
    simp [first]

/-- The lines of a result set, with or without a line of column names in front. They end at the
first row that cannot be written. -/
def block (header : Bool) (set : ResultSet) : String :=
  (if header then line set.columns else "") ++ body (writtenRows set.rows)

end PgVitals.Csv
