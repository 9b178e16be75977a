import Mathlib.Algebra.GroupWithZero.Nat
import PgVitals.Proofs.Catalog.Choice
import PgVitals.Proofs.Catalog.Parity
import PgVitals.Proofs.Snapshot.History
/-!
# Texts of statements in files

A file has one line for each row as long as no cell holds a line feed. The cells that can hold one
are the texts of clients' statements: whoever sends a statement decides how many lines it has. The
view of tracked statements has its line feeds turned into blanks by the server; the view of sessions
has the texts as they are, so there a row takes as many more lines as its statement has line feeds.

* `feeds` counts line feeds, and `feeds_line` and `feeds_block` say how many a line and a whole
  block of lines have.
* `Template.expressions` are what a release selects for a template, and `templates_statementTexts`
  goes through the views: one selects the text of a statement on every release, no other does on
  any.
* `Yields` is what a server returns for an expression, and `Returned` what it returns for a row.
  `Returned.rowFeeds` says that only the texts of statements as they were sent bring line feeds into
  a row.
* `statementFeeds` is the number of line feeds that clients have brought in.

What the server returns is described by the expression it was asked for: the text itself, the text
with blanks for its line feeds, or something without line feeds. The last of these is taken of
names, numbers and times. Rows behind one that cannot be written are not in the file, and are not
counted.
-/

namespace PgVitals

open PgVitals.Text PgVitals.Catalog PgVitals.Files

/-! ## Line feeds -/

/-- The number of line feeds in a text. -/
def feeds (s : String) : Nat := s.toList.count Csv.terminator

@[simp]
theorem feeds_append (a b : String) : feeds (a ++ b) = feeds a + feeds b := by
  rw [feeds, String.toList_append, List.count_append, feeds, feeds]

theorem feeds_join (parts : List String) : feeds (String.join parts) = (parts.map feeds).sum := by
  induction parts with
  | nil => rfl
  | cons part parts ih => rw [String.join_cons, feeds_append, ih, List.map_cons, List.sum_cons]

theorem feeds_intercalate {mark : String} (free : feeds mark = 0) (parts : List String) :
    feeds (String.intercalate mark parts) = (parts.map feeds).sum := by
  induction parts with
  | nil => rw [String.intercalate_nil]; rfl
  | cons part parts ih =>
    cases parts with
    | nil => simp
    | cons next parts =>
      rw [String.intercalate_cons_cons, feeds_append, feeds_append, ih, free, Nat.add_zero,
        List.map_cons (a := part), List.sum_cons]

/-- The number of line feeds within the cells of a row. -/
def rowFeeds (row : List Value) : Nat := (row.map fun v => feeds (Csv.text v)).sum

theorem rowFeeds_append (row more : List Value) :
    rowFeeds (row ++ more) = rowFeeds row + rowFeeds more := by
  rw [rowFeeds, List.map_append, List.sum_append, rowFeeds, rowFeeds]

/-- A line has one line feed behind it, and those of its cells. -/
theorem feeds_line (cells : List String) : feeds (Csv.line cells) = (cells.map feeds).sum + 1 := by
  rw [Csv.line, feeds_append, feeds_intercalate (by decide)]
  rfl

theorem feeds_body (rows : List (List Value)) :
    feeds (Csv.body rows) = rows.length + (rows.map rowFeeds).sum := by
  rw [Csv.body, feeds_join]
  induction rows with
  | nil => rfl
  | cons row rows ih =>
    have first : feeds (Csv.line (row.map Csv.text)) = rowFeeds row + 1 := by
      rw [feeds_line, List.map_map]
      rfl
    simp only [List.map_cons, List.sum_cons, List.length_cons, first, ih]
    omega

theorem feeds_block {set : ResultSet} {header : Bool}
    (names : ∀ name ∈ set.columns, feeds name = 0) :
    feeds (Csv.block header set) =
      header.toNat + (Csv.writtenRows set.rows).length +
        ((Csv.writtenRows set.rows).map rowFeeds).sum := by
  have columns : (set.columns.map feeds).sum = 0 := by
    simpa [List.sum_eq_zero_iff_forall_eq_nat] using names
  cases header with
  | false => simp [Csv.block, feeds_body]
  | true => simp [Csv.block, feeds_body, feeds_line, columns]; omega

/-! ## Select lists -/

namespace Catalog

/-- An item of a select list is an expression, which may show under another name. -/
def Selects (item sql : String) : Prop := item = sql ∨ ∃ name, item = sql ++ " AS " ++ name

/-- The expression that a release selects for a column. -/
def Column.expression? (c : Column) (release : Release) : Option String :=
  (applicable? c.fragments release).map Fragment.sql

/-- The expressions that a release selects for a template, in the order of the columns. -/
def Template.expressions (t : Template) (release : Release) : List String :=
  t.stamped captureTime (t.columns.filterMap fun c => c.expression? release)

/-- Where no literal stands in for a column, the expressions are those of the select list. -/
theorem Template.selectList_selects {t : Template} (missing : t.missing = none)
    (release : Release) : List.Forall₂ Selects (t.selectList release) (t.expressions release) := by
  have columns : List.Forall₂ Selects
      (t.columns.filterMap fun c => c.item? t.missing release)
      (t.columns.filterMap fun c => c.expression? release) := by
    induction t.columns with
    | nil => exact .nil
    | cons c columns ih =>
      rw [List.filterMap_cons, List.filterMap_cons, Column.expression?, Column.item?]
      cases applicable? c.fragments release with
      | none => simpa [missing] using ih
      | some f =>
        refine .cons ?_ ih
        unfold Column.named
        split
        · rename_i same
          exact .inl (beq_iff_eq.mp same).symm
        · exact .inr ⟨c.name, rfl⟩
  unfold selectList expressions stamped
  dsimp only
  split
  · exact .cons (.inl rfl) columns
  · exact columns

/-- Whether an expression is the text of a client's statement as it was sent. -/
def isStatementText (sql : String) : Bool := sql == "query" || sql == "current_query"

/-- The expression for the text of a client's statement with blanks for its line feeds. -/
def cleanedText : String := "regexp_replace(query, E'\\n', ' ', 'g')"

/-- Whether every release selects the text of a statement for a column. -/
def Column.isStatementText (c : Column) : Bool :=
  (c.fragments.all fun f => Catalog.isStatementText f.sql) &&
    c.fragments.any fun f => f.since == Release.always && f.before.isNone

/-- Whether no release selects the text of a statement for a column. -/
def Column.isOther (c : Column) : Bool :=
  c.fragments.all fun f => !Catalog.isStatementText f.sql

theorem Column.isStatementText_of_isOther {c : Column} (other : c.isOther = true) :
    c.isStatementText = false := by
  by_contra text
  obtain ⟨all, always⟩ := Bool.and_eq_true_iff.mp (Bool.not_eq_false _ ▸ text)
  obtain ⟨f, member, -⟩ := List.any_eq_true.mp always
  have none := List.all_eq_true.mp other f member
  rw [List.all_eq_true.mp all f member] at none
  cases none

theorem Column.expression?_other {c : Column} (other : c.isOther = true) (release : Release) :
    ((c.expression? release).map Catalog.isStatementText).getD false = false := by
  unfold expression?
  cases found : applicable? c.fragments release with
  | none => rfl
  | some f => simpa using List.all_eq_true.mp other f (List.mem_of_find?_eq_some found)

theorem Column.expression?_text {c : Column} (text : c.isStatementText = true) {release : Release}
    (real : Release.always ≤ release) :
    ((c.expression? release).map Catalog.isStatementText).getD false = true := by
  obtain ⟨all, always⟩ := Bool.and_eq_true_iff.mp text
  obtain ⟨f, member, endless⟩ := List.any_eq_true.mp always
  rw [Bool.and_eq_true, beq_iff_eq] at endless
  -- One fragment covers every release, so the column is in every select list.
  have applies : f.applies release = true :=
    Fragment.applies_of_le (Option.isNone_iff_eq_none.mp endless.2) (endless.1 ▸ real)
  obtain ⟨g, found⟩ := exists_applicable member applies
  rw [expression?, found]
  exact List.all_eq_true.mp all g (List.mem_of_find?_eq_some found)

/-- The view of sessions selects the text of a statement on every release, and no other view does on
any; no view has a literal in place of a column. -/
theorem templates_statementTexts : ∀ t ∈ Snapshot.templates,
    t.missing = none ∧ Release.always ≤ t.since ∧
      (∀ c ∈ t.columns, c.isStatementText = true ∨ c.isOther = true) ∧
      t.columns.countP Column.isStatementText =
        if t.name = Snapshot.activity.name then 1 else 0 := by
  decide +kernel

theorem countP_isStatementText {t : Template} {release : Release} (listed : t ∈ Snapshot.templates)
    (supported : t.since ≤ release) :
    (t.expressions release).countP isStatementText =
      if t.name = Snapshot.activity.name then 1 else 0 := by
  obtain ⟨-, real, columns, count⟩ := templates_statementTexts t listed
  have picked : (t.columns.filterMap fun c => c.expression? release).countP isStatementText =
      t.columns.countP Column.isStatementText := by
    rw [List.countP_filterMap]
    refine List.countP_congr fun c member => ?_
    rcases columns c member with text | other
    · simp [Column.expression?_text text (Release.le_trans real supported), text]
    · simp [Column.expression?_other other, Column.isStatementText_of_isOther other]
  have time : isStatementText captureTime = false := by decide +kernel
  unfold Template.expressions Template.stamped
  split
  · rw [List.countP_cons_of_neg (by simp [time]), picked, count]
  · rw [picked, count]

end Catalog

/-! ## Servers -/

namespace Snapshot

/-- The text of a client's statement, where there is one. -/
def statementValue : Option String → Value
  | some s => .text s
  | none => .null

/-- What a server returns for an expression, when `statement` is the text of the client's statement:
that text where the expression is the text, the text with blanks for its line feeds where it
replaces them, and values without line feeds for any other expression. All columns of a view are one
expression, which has as many values as there are columns. -/
inductive Yields (statement : Option String) : (sql : String) → List Value → Prop
  | text {sql : String} (h : isStatementText sql = true) :
      Yields statement sql [statementValue statement]
  | cleaned :
      Yields statement cleanedText
        [statementValue (statement.map (replaceChar Csv.terminator [' ']))]
  | other {sql : String} {values : List Value} (text : isStatementText sql = false)
      (cleaned : sql ≠ cleanedText) (free : ∀ v ∈ values, feeds (Csv.text v) = 0) :
      Yields statement sql values

/-- The row that a server returns for the expressions of a select list. -/
def Returned (expressions : List String) (statement : Option String) (row : List Value) : Prop :=
  ∃ parts, List.Forall₂ (Yields statement) expressions parts ∧ row = parts.flatten

theorem feeds_statementValue (statement : Option String) :
    feeds (Csv.text (statementValue statement)) = feeds (statement.getD "") := by
  cases statement <;> rfl

theorem feeds_replaceChar (s : String) : feeds (replaceChar Csv.terminator [' '] s) = 0 := by
  rw [feeds, replaceChar, String.toList_ofList, List.count_eq_zero]
  intro held
  obtain ⟨c, -, here⟩ := List.mem_flatMap.mp held
  split at here
  · exact absurd (List.mem_singleton.mp here) (by decide)
  · rename_i other
    exact other (beq_iff_eq.mpr (List.mem_singleton.mp here).symm)

/-- Only the texts of statements as they were sent bring line feeds into a row. -/
theorem Yields.rowFeeds {statement : Option String} {sql : String} {values : List Value}
    (h : Yields statement sql values) :
    rowFeeds values = if isStatementText sql then feeds (statement.getD "") else 0 := by
  cases h with
  | text h =>
    rw [if_pos h]
    simp [PgVitals.rowFeeds, feeds_statementValue]
  | cleaned =>
    rw [if_neg (by decide)]
    cases statement with
    | none => rfl
    | some s => simp [PgVitals.rowFeeds, feeds_statementValue, feeds_replaceChar]
  | other text cleaned free =>
    rw [if_neg (by simp [text])]
    simpa [PgVitals.rowFeeds, List.sum_eq_zero_iff_forall_eq_nat] using free

theorem Returned.rowFeeds {expressions : List String} {statement : Option String}
    {row : List Value} (h : Returned expressions statement row) :
    rowFeeds row = expressions.countP isStatementText * feeds (statement.getD "") := by
  obtain ⟨parts, yielded, rfl⟩ := h
  induction yielded with
  | nil => simp [PgVitals.rowFeeds]
  | cons first _ ih =>
    rw [List.flatten_cons, rowFeeds_append, first.rowFeeds, ih, List.countP_cons, Nat.add_mul]
    split <;> simp [Nat.add_comm]

/-- The number of line feeds in the texts of some statements. -/
def statementFeeds (statements : List (Option String)) : Nat :=
  (statements.map fun statement => feeds (statement.getD "")).sum

theorem sum_rowFeeds {expressions : List String} {statements : List (Option String)}
    {rows : List (List Value)} (returned : List.Forall₂ (Returned expressions) statements rows) :
    (rows.map PgVitals.rowFeeds).sum =
      expressions.countP isStatementText * statementFeeds statements := by
  induction returned with
  | nil => rfl
  | cons first _ ih =>
    simp only [List.map_cons, List.sum_cons, first.rowFeeds, ih, statementFeeds, Nat.mul_add]

theorem statementFeeds_eq_zero_iff {statements : List (Option String)} :
    statementFeeds statements = 0 ↔ ∀ s, some s ∈ statements → Csv.terminator ∉ s.toList := by
  rw [statementFeeds, List.sum_eq_zero_iff_forall_eq_nat]
  simp only [List.forall_mem_map, feeds, List.count_eq_zero]
  constructor
  · exact fun none s member => none (some s) member
  · rintro none (_ | s) member
    · simp
    · exact none s member

/-! ## Dumps -/

/-- A view that is dumped is supported by the release. -/
theorem Dumping.since_le {t : Template} {d : Dumping} {set : ResultSet}
    (answer : d.answer? t = some set) : t.since ≤ d.release := by
  by_contra low
  rw [Dumping.answer?, Template.render_of_not_le low] at answer
  cases answer

/-- Whether a dump into a file with some content begins with a line of column names. -/
def Dumping.isHeadingDue (d : Dumping) (held : Content) : Bool :=
  !d.sink.quiet && Tree.isEmptyContent held

/-- What a dump of a view appends has one line for the column names, where they are due, and one for
each row; only in the view of sessions a row takes as many more lines as its statement has line
feeds. So a dump has one line for each row exactly when it is of another view, or no client has sent
a statement of several lines. All rows are there if all of them can be written; otherwise only those
in front of the first that cannot, and the dump fails. -/
theorem dumped_lines (t : Template) (listed : t ∈ Catalog.Snapshot.templates) (d : Dumping)
    (files : Tree) (l : Location) (leads : files.Leads (d.sink.path t.name) l)
    (writable : d.surroundings.writeRefusal = none) (set : ResultSet)
    (answer : d.answer? t = some set) (names : ∀ name ∈ set.columns, feeds name = 0)
    (statements : List (Option String))
    (returned : List.Forall₂ (Returned (t.expressions d.release)) statements set.rows) :
    List.Forall₂ Selects (t.selectList d.release) (t.expressions d.release) ∧
    ∃ text count,
      (if set.rows.all Csv.isWritable then
        count = set.rows.length ∧ (d.perform t files).1 = .ok count
      else
        count < set.rows.length ∧
          (d.perform t files).1 = .error (.failed (.fault .tooLongToWrite))) ∧
      (d.perform t files).2.files.held l = Tree.extended (files.held l) text ∧
      feeds text = (d.isHeadingDue (files.held l)).toNat + count +
        (if t.name = Catalog.Snapshot.activity.name then statementFeeds (statements.take count)
        else 0) ∧
      (feeds text = (d.isHeadingDue (files.held l)).toNat + count ↔
        (t.name = Catalog.Snapshot.activity.name →
          ∀ s, some s ∈ statements.take count → Csv.terminator ∉ s.toList)) := by
  obtain ⟨s', done, -⟩ := Dumping.perform_answered leads writable answer
  have held := Dumping.held_perform leads writable
  rw [Dumping.addition, answer] at held
  let count := (Csv.writtenRows set.rows).length
  -- The rows written are the first ones, so their statements are the first ones, too.
  have front : Csv.writtenRows set.rows = set.rows.take count :=
    (List.prefix_iff_eq_take.mp (List.takeWhile_prefix _))
  have written : List.Forall₂ (Returned (t.expressions d.release)) (statements.take count)
      (Csv.writtenRows set.rows) := by
    rw [front]
    exact List.forall₂_take count returned
  have lines : feeds (Csv.block (d.isHeadingDue (files.held l)) set) =
      (d.isHeadingDue (files.held l)).toNat + count +
        (if t.name = Catalog.Snapshot.activity.name then statementFeeds (statements.take count)
        else 0) := by
    rw [feeds_block names, sum_rowFeeds written,
      countP_isStatementText listed (Dumping.since_le answer)]
    split <;> simp [count]
  refine ⟨Template.selectList_selects (templates_statementTexts t listed).1 _,
    Csv.block (d.isHeadingDue (files.held l)) set, count, ?_, held, lines, ?_⟩
  · rw [done, writeOutcome]
    split
    · rename_i whole
      have all : count = set.rows.length := congrArg List.length (Csv.writtenRows_eq whole)
      exact ⟨all, congrArg Except.ok all.symm⟩
    · exact ⟨Csv.length_writtenRows_lt ‹_›, rfl⟩
  · rw [lines, Nat.add_eq_left, ← statementFeeds_eq_zero_iff]
    split <;> simp_all

/-! ## One server -/

/-- The value of an expression that is about the text of a statement; any other one is null. -/
def valueFor (statement : Option String) (sql : String) : Value :=
  if isStatementText sql then statementValue statement
  else if sql = cleanedText then
    statementValue (statement.map (replaceChar Csv.terminator [' ']))
  else .null

theorem yields_valueFor (statement : Option String) (sql : String) :
    Yields statement sql [valueFor statement sql] := by
  unfold valueFor
  split
  · exact .text ‹_›
  · rename_i text
    split
    · rename_i cleaned
      subst cleaned
      exact .cleaned
    · exact .other (Bool.eq_false_iff.mpr text) ‹_› (by decide)

theorem returned_valueFor (expressions : List String) (statement : Option String) :
    Returned expressions statement (expressions.map (valueFor statement)) := by
  refine ⟨expressions.map fun sql => [valueFor statement sql], ?_, ?_⟩
  · rw [List.forall₂_map_right_iff]
    exact List.forall₂_same.mpr fun sql _ => yields_valueFor statement sql
  · rw [← List.flatMap_def, List.map_eq_flatMap]

/-- A statement of two lines. -/
def twoLines : String := "SELECT 1\nFROM t"

/-- A view on a server of release 16 whose only client has sent a statement of two lines. -/
def twoLineView (t : Template) : ResultSet where
  columns := t.columnNames ⟨16, 0⟩
  rows := [(t.expressions ⟨16, 0⟩).map (valueFor (some twoLines))]

/-- A quiet dump of such a view. -/
def twoLineDump (t : Template) : Dumping := answering true (.result (twoLineView t))

theorem answer_twoLineDump {t : Template} (listed : t ∈ Catalog.Snapshot.templates)
    (supported : t.since ≤ ⟨16, 0⟩) : (twoLineDump t).answer? t = some (twoLineView t) := by
  obtain ⟨statement, rendered⟩ :=
    Template.render_ok (Monitor.snapshot_sourced t listed) supported .null
  have rendered : t.render (twoLineDump t).release .null = .ok statement := rendered
  rw [Dumping.answer?, rendered]
  rfl

/-- The view of tracked statements has one line for the statement of two lines. -/
theorem dumped_lines_tracked :
    Catalog.Snapshot.statements ∈ Catalog.Snapshot.templates ∧
      cleanedText ∈ Catalog.Snapshot.statements.expressions ⟨16, 0⟩ ∧
      List.Forall₂ (Returned (Catalog.Snapshot.statements.expressions ⟨16, 0⟩)) [some twoLines]
        (twoLineView Catalog.Snapshot.statements).rows ∧
      ∃ text, ((twoLineDump Catalog.Snapshot.statements).perform
          Catalog.Snapshot.statements {}).1 = .ok 1 ∧
        feeds text = 1 := by
  have listed : Catalog.Snapshot.statements ∈ Catalog.Snapshot.templates := by
    simp [Catalog.Snapshot.templates]
  have leads : ({} : Tree).Leads
      ((twoLineDump Catalog.Snapshot.statements).sink.path Catalog.Snapshot.statements.name)
      ["pg_stat_statements.csv"] := by
    right
    show ({} : Tree).find (join "./" ("pg_stat_statements" ++ ".csv")) = _
    decide +kernel
  have names : ∀ name ∈ (twoLineView Catalog.Snapshot.statements).columns, feeds name = 0 := by
    decide +kernel
  have returned : List.Forall₂ (Returned (Catalog.Snapshot.statements.expressions ⟨16, 0⟩))
      [some twoLines] (twoLineView Catalog.Snapshot.statements).rows :=
    .cons (returned_valueFor _ _) .nil
  obtain ⟨-, text, count, done, -, lines, -⟩ := dumped_lines _ listed
    (twoLineDump Catalog.Snapshot.statements) {} _ leads rfl _
    (answer_twoLineDump listed (by decide)) names _ returned
  rw [if_pos (by decide +kernel)] at done
  obtain ⟨rfl, done⟩ := done
  exact ⟨listed, by decide +kernel, returned, text, done, lines⟩

/-- The view of sessions has two lines for its one row. -/
theorem dump_breaks_row :
    Catalog.Snapshot.activity ∈ Catalog.Snapshot.templates ∧
      List.Forall₂ (Returned (Catalog.Snapshot.activity.expressions ⟨16, 0⟩)) [some twoLines]
        (twoLineView Catalog.Snapshot.activity).rows ∧
      (∀ name ∈ (twoLineView Catalog.Snapshot.activity).columns, feeds name = 0) ∧
      ((twoLineDump Catalog.Snapshot.activity).perform Catalog.Snapshot.activity {}).1 = .ok 1 ∧
      ∃ text,
        ((twoLineDump Catalog.Snapshot.activity).perform Catalog.Snapshot.activity {}).2.files.held
          ["pg_stat_activity.csv"] = .text text ∧ feeds text = 2 := by
  have listed : Catalog.Snapshot.activity ∈ Catalog.Snapshot.templates := List.mem_cons_self
  have leads : ({} : Tree).Leads
      ((twoLineDump Catalog.Snapshot.activity).sink.path Catalog.Snapshot.activity.name)
      ["pg_stat_activity.csv"] := by
    right
    show ({} : Tree).find (join "./" ("pg_stat_activity" ++ ".csv")) = _
    decide +kernel
  have answer := answer_twoLineDump listed (by decide)
  refine ⟨listed, .cons (returned_valueFor _ _) .nil, by decide +kernel, ?_,
    "" ++ Csv.block false (twoLineView Catalog.Snapshot.activity), ?_, by decide +kernel⟩
  · obtain ⟨s', done, -⟩ := Dumping.perform_answered leads rfl answer
    rw [done]
    rfl
  · rw [Dumping.held_perform leads rfl, Dumping.addition, answer]
    rfl

end Snapshot

end PgVitals
