import PgVitals.Proofs.Files.Append
import PgVitals.Proofs.Session.Perform
import PgVitals.Proofs.Value.Characters
import PgVitals.Snapshot.Dump
/-!
# Reading files back

Nothing is escaped in a file, so it can be read back only where no cell holds a mark of its own:
then its lines are what stands in front of the line feeds, and the cells of a line are what stands
between the semicolons. Numbers and times never hold such a mark.

* `cut` are the parts of a text between its marks. `cut_intercalate` and `cut_ended` say that
  joining is undone by it, for cells and for lines.
* `numeric_text` says that numbers, times, truth values and nulls are written with numeric
  characters alone, and `cell_ok` that of these only whole numbers can have no text.
* `textsOf` are the texts of the cells of some rows, if all of them have one, and `ReadsBack` says
  that a text has one line for the column names and one for each row.
* `Snapshot.Handle.perform_write` is what writing does to a file, whether or not all rows can be
  written: it grows by the rows in front of the first that cannot.

A row has to have a cell: the line of an empty row has nothing on it, like that of a row with one
empty text, and the two cannot be told apart. A list may hold a mark in its text although none of
its items does, so lists are not among the values that can always be read back; nor are whole
numbers that are too long to be written. The last theorem has an example of each.
-/

namespace PgVitals.Csv

open PgVitals.Files

/-! ## Cutting -/

/-- The parts of a text between the places where a mark stands. -/
def cut (mark : Char) (s : String) : List String := (s.toList.splitOn mark).map String.ofList

variable {mark : Char} {cells lines : List String}

/-- Cells that do not hold the mark they are joined with are the parts between the marks. -/
theorem cut_intercalate (some : cells ≠ []) (free : ∀ cell ∈ cells, mark ∉ cell.toList) :
    cut mark (String.intercalate (String.singleton mark) cells) = cells := by
  have apart : ∀ cs ∈ cells.map String.toList, mark ∉ cs := by
    intro cs member
    obtain ⟨cell, among, rfl⟩ := List.mem_map.mp member
    exact free cell among
  rw [cut, String.toList_intercalate, String.toList_singleton,
    List.splitOn_intercalate mark apart (by simpa using some), List.map_map]
  simp [Function.comp_def]

/-- Lines that each end with the mark are lines with the mark between them and nothing behind the
last mark. -/
theorem join_ended (mark : Char) (lines : List String) :
    String.join (lines.map (· ++ String.singleton mark)) =
      String.intercalate (String.singleton mark) (lines ++ [""]) := by
  induction lines with
  | nil => rfl
  | cons line lines ih =>
    rw [List.map_cons, String.join_cons, ih, List.cons_append,
      String.intercalate_cons_of_ne_nil (by simp)]

theorem cut_ended (free : ∀ line ∈ lines, mark ∉ line.toList) :
    cut mark (String.join (lines.map (· ++ String.singleton mark))) = lines ++ [""] := by
  rw [join_ended]
  refine cut_intercalate (by simp) fun line member => ?_
  rcases List.mem_append.mp member with member | member
  · exact free line member
  · obtain rfl := List.mem_singleton.mp member
    simp

/-! ## Cells and lines -/

/-- A text that can stand in a cell: it holds neither a semicolon nor a line feed. -/
def Fits (s : String) : Prop := separator ∉ s.toList ∧ terminator ∉ s.toList

instance (s : String) : Decidable (Fits s) :=
  inferInstanceAs (Decidable (separator ∉ s.toList ∧ terminator ∉ s.toList))

/-- What stands in a line, without its end. -/
def content (cells : List String) : String :=
  String.intercalate (String.singleton separator) cells

theorem cut_content (some : cells ≠ []) (fits : ∀ cell ∈ cells, Fits cell) :
    cut separator (content cells) = cells :=
  cut_intercalate some fun cell member => (fits cell member).1

theorem mem_intercalate {sep : List Char} {parts : List (List Char)} {c : Char}
    (h : c ∈ sep.intercalate parts) : c ∈ sep ∨ ∃ part ∈ parts, c ∈ part := by
  induction parts with
  | nil => simp at h
  | cons part parts ih =>
    cases parts with
    | nil => simp_all
    | cons next parts =>
      rw [List.intercalate_cons_cons, List.mem_append, List.mem_append] at h
      rcases h with (own | mark) | later
      · exact .inr ⟨part, List.mem_cons_self, own⟩
      · exact .inl mark
      · exact (ih later).imp_right fun ⟨other, member, held⟩ =>
          ⟨other, List.mem_cons_of_mem _ member, held⟩

/-- A line ends only where the line feed behind it stands. -/
theorem terminator_not_mem_content (fits : ∀ cell ∈ cells, Fits cell) :
    terminator ∉ (content cells).toList := by
  rw [content, String.toList_intercalate, String.toList_singleton]
  intro held
  rcases mem_intercalate held with mark | ⟨cs, member, held⟩
  · revert mark
    decide
  · obtain ⟨cell, among, rfl⟩ := List.mem_map.mp member
    exact (fits cell among).2 held

/-! ## Values -/

/-- Numbers, times, truth values and nulls are written with nothing but numeric characters. -/
theorem numeric_text {v : Value} (scalar : v.isScalar = true) : Numeric (text v).toList := by
  cases v with
  | null => exact numeric_nil
  | bool b => cases b <;> decide
  | int n => exact Number.numeric_intText n
  | float x => exact Number.numeric_floatText x
  | decimal d => exact Number.Decimal.numeric_text d
  | timestamp t => exact Time.Timestamp.numeric_text t
  | date d => exact Time.Date.numeric_text d
  | interval i => exact Time.Interval.numeric_text i
  | text | bytes | list | pair | map | set | loop => cases scalar

theorem fits_of_numeric {s : String} (h : Numeric s.toList) : Fits s := by
  constructor <;> exact fun held => absurd (h _ held) (by decide)

theorem text_of_cell {v : Value} {s : String} (h : cell v = .ok s) : text v = s := by
  unfold cell at h
  split at h
  · exact Except.ok.inj h
  · cases h

/-- Of numbers, times, truth values and nulls only whole numbers can have no text. -/
theorem cell_ok {v : Value} (scalar : v.isScalar = true)
    (short : ∀ n, v = .int n → Number.isWritable n = true) : cell v = .ok (text v) := by
  refine if_pos ?_
  cases v with
  | int n => exact short n rfl
  | text | bytes | list | pair | map | set | loop => cases scalar
  | _ => rfl

/-- The texts of the cells of rows, if all of them have one. -/
def textsOf (rows : List (List Value)) : Except Fault (List (List String)) :=
  rows.mapM fun row => row.mapM cell

theorem mapM_cell (row : List Value) :
    row.mapM cell = if isWritable row then .ok (row.map text) else .error .tooLongToWrite := by
  induction row with
  | nil => rfl
  | cons v row ih =>
    have both : isWritable (v :: row) = (v.isWritable && isWritable row) := rfl
    rw [List.mapM_cons, ih, cell, both]
    cases v.isWritable with
    | false => rfl
    | true => cases isWritable row <;> rfl

theorem mapM_cell_eq_error {row : List Value} {fault : Fault} (h : row.mapM cell = .error fault) :
    isWritable row = false ∧ fault = .tooLongToWrite := by
  rw [mapM_cell] at h
  split at h
  · cases h
  · rename_i long
    cases h
    exact ⟨by simpa using long, rfl⟩

/-- A row that cannot be written is the end of those that are. -/
theorem writtenRows_eq_front {before after : List (List Value)} {row : List Value}
    (whole : before.all isWritable = true) (long : isWritable row = false) :
    writtenRows (before ++ row :: after) = before := by
  rw [writtenRows, List.takeWhile_append_of_pos (List.all_eq_true.mp whole), List.takeWhile_cons,
    long, if_neg Bool.false_ne_true, List.append_nil]

theorem textsOf_eq_ok {rows : List (List Value)} {texts : List (List String)}
    (h : textsOf rows = .ok texts) :
    rows.all isWritable = true ∧ texts = rows.map fun row => row.map text := by
  induction rows generalizing texts with
  | nil =>
    cases h
    exact ⟨rfl, rfl⟩
  | cons row rows ih =>
    rw [textsOf, List.mapM_cons, mapM_cell, ← textsOf] at h
    split at h
    · rename_i whole
      cases others : textsOf rows with
      | error fault =>
        rw [others] at h
        cases h
      | ok more =>
        rw [others] at h
        cases h
        obtain ⟨all, rfl⟩ := ih others
        exact ⟨by rw [List.all_cons, whole, all]; rfl, rfl⟩
    · cases h

/-! ## Lines -/

/-- A text has one line for the column names and one for each row, and nothing behind them; cut at
the semicolons, the lines are the column names and then, row by row, the texts of the cells. -/
def ReadsBack (s : String) (columns : List String) (rows : List (List String)) : Prop :=
  ∃ lines, cut terminator s = lines ++ [""] ∧ lines.length = 1 + rows.length ∧
    lines.map (cut separator) = columns :: rows

theorem lines_eq (columns : List String) (rows : List (List Value)) :
    line columns ++ body rows =
      String.join (((columns :: rows.map fun row => row.map text).map content).map
        (· ++ String.singleton terminator)) := by
  rw [List.map_cons, List.map_cons, String.join_cons, body, List.map_map, List.map_map]
  rfl

theorem readsBack_lines {columns : List String} {rows : List (List Value)} (named : columns ≠ [])
    (filled : ∀ row ∈ rows, row ≠ []) (names : ∀ name ∈ columns, Fits name)
    (values : ∀ row ∈ rows, ∀ v ∈ row, Fits (text v)) :
    ReadsBack (line columns ++ body rows) columns (rows.map fun row => row.map text) := by
  let table := columns :: rows.map fun row => row.map text
  have fits : ∀ cells ∈ table, cells ≠ [] ∧ ∀ cell ∈ cells, Fits cell := by
    refine List.forall_mem_cons.mpr ⟨⟨named, names⟩, fun cells member => ?_⟩
    obtain ⟨row, among, rfl⟩ := List.mem_map.mp member
    refine ⟨by simpa using filled row among, fun s inside => ?_⟩
    obtain ⟨v, here, rfl⟩ := List.mem_map.mp inside
    exact values row among v here
  refine ⟨table.map content, ?_, ?_, ?_⟩
  · rw [lines_eq]
    refine cut_ended fun line member => ?_
    obtain ⟨cells, among, rfl⟩ := List.mem_map.mp member
    exact terminator_not_mem_content (fits cells among).2
  · rw [List.length_map, List.length_cons, Nat.add_comm]
  · rw [List.map_map]
    calc table.map (cut separator ∘ content)
        = table.map id :=
          List.map_congr_left fun cells among =>
            cut_content (fits cells among).1 (fits cells among).2
      _ = table := List.map_id _

end Csv

/-! ## Files -/

namespace Snapshot

/-- What writing a result set ends with: the number of its rows, if all of them can be written. -/
def writeOutcome (set : ResultSet) : Except Stop Nat :=
  if set.rows.all Csv.isWritable then .ok set.rows.length
  else .error (.failed (.fault .tooLongToWrite))

/-- Whether all rows can be written or not, the file grows by those in front of the first that
cannot. -/
theorem Handle.perform_write (w : Surroundings) (s : Session) (handle : Handle) (set : ResultSet) :
    (handle.write set).perform w s =
      (writeOutcome set,
        { s with files := s.files.append handle.location (Csv.block handle.header set) }) := by
  unfold Handle.write Csv.verdict writeOutcome
  split <;> rfl

end Snapshot

namespace Csv

/-- Writing ends in some way and leaves some lines at the end of the file. -/
def Leaves (handle : Snapshot.Handle) (set : ResultSet) (outcome : Except Stop Nat)
    (lines : String) : Prop :=
  ∀ w s, ∃ s', (handle.write set).perform w s = (outcome, s') ∧
    s'.files.held handle.location = Files.Tree.extended (s.files.held handle.location) lines

theorem leaves_block {handle : Snapshot.Handle} (set : ResultSet) (due : handle.header = true) :
    Leaves handle set (Snapshot.writeOutcome set)
      (line set.columns ++ body (writtenRows set.rows)) := by
  intro w s
  refine ⟨_, Snapshot.Handle.perform_write w s handle set, ?_⟩
  rw [due]
  exact Files.Tree.held_append

/-- What is written with a header is read back. Of any result set without empty rows whose cells
hold no mark, the file gets one line for the column names and one for each row, if every cell has a
text. A row with a cell that has none ends the file with the rows in front of it, and writing fails;
of numbers, truth values, times and nulls only a whole number of too many digits is such a cell, and
no text of theirs holds a mark. -/
theorem written_readBack (handle : Snapshot.Handle) (set : ResultSet) (due : handle.header = true)
    (named : set.columns ≠ []) (filled : ∀ row ∈ set.rows, row ≠ [])
    (names : ∀ name ∈ set.columns, Fits name)
    (values : ∀ row ∈ set.rows, ∀ v ∈ row, ∀ s, cell v = .ok s → Fits s) :
    (∀ texts, textsOf set.rows = .ok texts → ∃ lines,
      ReadsBack lines set.columns texts ∧ Leaves handle set (.ok set.rows.length) lines) ∧
    (∀ before row after texts fault, set.rows = before ++ row :: after →
      textsOf before = .ok texts → row.mapM cell = .error fault → ∃ lines,
      ReadsBack lines set.columns texts ∧
        Leaves handle set (.error (.failed (.fault fault))) lines) ∧
    ∀ v : Value, v.isScalar = true →
      (∀ s, cell v = .ok s → Fits s) ∧
      ((∀ n, v = .int n → Number.isWritable n = true) → ∃ s, cell v = .ok s) := by
  -- The rows that are written fit, whichever these are.
  have fits : ∀ rows : List (List Value), rows <+: set.rows → rows.all isWritable = true →
      ReadsBack (line set.columns ++ body rows) set.columns
        (rows.map fun row => row.map text) := by
    intro rows first whole
    refine readsBack_lines named (fun row member => filled row (first.subset member)) names ?_
    intro row member v inside
    refine values row (first.subset member) v inside (text v) (if_pos ?_)
    exact List.all_eq_true.mp (List.all_eq_true.mp whole row member) v inside
  refine ⟨?_, ?_, fun v scalar => ⟨?_, fun short => ⟨_, cell_ok scalar short⟩⟩⟩
  · intro texts formatted
    obtain ⟨whole, rfl⟩ := textsOf_eq_ok formatted
    have leaves := leaves_block set due
    rw [writtenRows_eq whole, Snapshot.writeOutcome, if_pos whole] at leaves
    exact ⟨_, fits _ List.prefix_rfl whole, leaves⟩
  · intro before row after texts fault shape formatted failed
    obtain ⟨whole, rfl⟩ := textsOf_eq_ok formatted
    obtain ⟨long, rfl⟩ := mapM_cell_eq_error failed
    have written : writtenRows set.rows = before := by
      rw [shape, writtenRows_eq_front whole long]
    have leaves := leaves_block set due
    rw [written, Snapshot.writeOutcome, if_neg (by simp [shape, long])] at leaves
    exact ⟨_, fits _ ⟨_, shape.symm⟩ whole, leaves⟩
  · intro s formatted
    rw [← text_of_cell formatted]
    exact fits_of_numeric (numeric_text scalar)

/-- Rows with empty cells at either end, with a null, and of one empty text. -/
theorem written_readBack_emptyCells :
    ∃ lines, ReadsBack lines ["a", ""] [["", "-0.50"], ["", "t"]] ∧
      Leaves ⟨["x.csv"], "x.csv", true⟩
        ⟨["a", ""], [[.null, .decimal (.finite true 50 (-2))], [.text "", .bool true]]⟩
        (.ok 2) lines := by
  have values : ∀ row ∈ [[Value.null, .decimal (.finite true 50 (-2))], [.text "", .bool true]],
      ∀ v ∈ row, ∀ s, cell v = .ok s → Fits s := by
    have texts : ∀ row ∈ [[Value.null, .decimal (.finite true 50 (-2))],
        [.text "", .bool true]], ∀ v ∈ row, Fits (text v) := by decide +kernel
    intro row among v inside s formatted
    rw [← text_of_cell formatted]
    exact texts row among v inside
  exact (written_readBack ⟨["x.csv"], "x.csv", true⟩
    ⟨["a", ""], [[.null, .decimal (.finite true 50 (-2))], [.text "", .bool true]]⟩ rfl
    (by simp) (by simp) (by decide) values).1 [["", "-0.50"], ["", "t"]] (by decide +kernel)

/-- The lines end in front of a number that is too long, and a list shows the semicolon of a
text. -/
theorem longNumber_unwritten :
    cell (.int (Number.tenTo 4300)) = .error .tooLongToWrite ∧
      (∀ v ∈ [Value.int 1, .int (Number.tenTo 4300), .int 2], ∀ s, cell v = .ok s → Fits s) ∧
      Leaves ⟨["x.csv"], "x.csv", true⟩
        ⟨["a"], [[.int 1], [.int (Number.tenTo 4300)], [.int 2]]⟩
        (.error (.failed (.fault .tooLongToWrite))) "a\n1\n" ∧
      cell (.list [.text "x;y"]) = .ok "['x;y']" ∧ ¬ Fits "['x;y']" := by
  have scalar : ∀ v ∈ [Value.int 1, .int (Number.tenTo 4300), .int 2], v.isScalar = true := by
    decide +kernel
  have lines : line ["a"] ++ body (writtenRows
      [[.int 1], [.int (Number.tenTo 4300)], [.int 2]]) = "a\n1\n" := by decide +kernel
  have ended : Snapshot.writeOutcome
      ⟨["a"], [[.int 1], [.int (Number.tenTo 4300)], [.int 2]]⟩ =
        .error (.failed (.fault .tooLongToWrite)) := by decide +kernel
  refine ⟨by decide +kernel, ?_, ?_, by decide +kernel, by decide⟩
  · intro v member s formatted
    rw [← text_of_cell formatted]
    exact fits_of_numeric (numeric_text (scalar v member))
  · rw [← lines, ← ended]
    exact leaves_block _ rfl

end PgVitals.Csv
