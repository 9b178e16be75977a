import PgVitals.Monitor.Registry
import PgVitals.Proofs.Monitor.Difference
import Mathlib.Algebra.BigOperators.Group.List.Basic
import Mathlib.Algebra.Order.Ring.Int
/-!
# Totals by name

A console returns its columns in an order of its own, and some that no field asks for. A record of
its answer holds the total of a column for each field of that name, over all rows. So it depends on
what stands under which name alone: not on the order of rows or columns, nor on further columns; and
totals of more rows are sums of totals.

* `columnTotal` is what a column adds up to over all rows. It is stated of an answer, without the
  search for positions that the program makes.
* `lastPosition?_eq_some` says that where columns can be told apart the last of a name is the only
  one, which is what makes the order of columns irrelevant.
* `ofNamedRows_eq` says that a record by name holds these totals, and that is where the two meet.
* `columnTotal_append` and `columnTotal_perm` are about more rows and other orders of rows, and
  `columnTotal_widened` about other orders of columns and columns of no field.

`Addable` is what is taken of an answer: its columns have different names, each row has a cell for
each column, and under the names of fields there are nulls and whole numbers only. An answer in
which a name stands twice is not excluded by the program, which takes the last of them; the order of
columns matters then.
-/

namespace PgVitals.Monitor

variable {k : RecordKind} {columns : List String} {row : List Value} {rows : List (List Value)}
  {name : String} {position : Nat}

/-! ## Amounts -/

/-- What a cell adds to a total; null adds nothing. -/
def amount : Value → Int
  | .int n => n
  | _ => 0

/-- A cell that can be added up. -/
def IsAmount (v : Value) : Prop := v = .null ∨ ∃ n, v = .int n

instance : DecidablePred IsAmount
  | .null => isTrue (.inl rfl)
  | .int n => isTrue (.inr ⟨n, rfl⟩)
  | .bool _ | .float _ | .decimal _ | .text _ | .bytes _ | .timestamp _ | .date _ | .interval _
  | .list _ | .pair _ _ | .map _ | .set _ | .loop _ => isFalse nofun

/-- What the cells under a name add up to. -/
def amountUnder (name : String) (cells : List (String × Value)) : Int :=
  ((cells.filter fun cell => cell.1 == name).map fun cell => amount cell.2).sum

/-- What a column adds up to over all rows. -/
def columnTotal (set : ResultSet) (name : String) : Int :=
  (set.rows.map fun row => amountUnder name (set.columns.zip row)).sum

/-- An answer whose columns can be told apart, with a cell in every column of each row. Under the
names of fields there are nulls and whole numbers only. -/
structure Addable (k : RecordKind) (set : ResultSet) : Prop where
  distinct : set.columns.Nodup
  wide : ∀ row ∈ set.rows, row.length = set.columns.length
  amounts : ∀ row ∈ set.rows, ∀ cell ∈ set.columns.zip row, cell.1 ∈ k.names → IsAmount cell.2

theorem number_amount {kind : FieldKind} {v : Value} (whole : kind ≠ .timer) (h : IsAmount v) :
    number kind v = .ok (.whole (amount v)) := by
  obtain rfl | ⟨n, rfl⟩ := h <;> cases kind <;> first | rfl | exact absurd rfl whole

theorem amountUnder_eq_zero {cells : List (String × Value)} (h : ∀ cell ∈ cells, cell.1 ≠ name) :
    amountUnder name cells = 0 := by
  have empty : cells.filter (fun cell => cell.1 == name) = [] := by
    rw [List.filter_eq_nil_iff]
    exact fun cell member => by simpa using h cell member
  rw [amountUnder, empty]
  rfl

theorem amountUnder_perm {cells others : List (String × Value)} (h : others.Perm cells) :
    amountUnder name others = amountUnder name cells :=
  ((h.filter _).map _).sum_eq

theorem amountUnder_append (cells more : List (String × Value)) :
    amountUnder name (cells ++ more) = amountUnder name cells + amountUnder name more := by
  rw [amountUnder, List.filter_append, List.map_append, List.sum_append]
  rfl

theorem amountUnder_cons (cell : String × Value) (cells : List (String × Value)) :
    amountUnder name (cell :: cells) =
      (if cell.1 = name then amount cell.2 else 0) + amountUnder name cells := by
  by_cases same : cell.1 = name <;> simp [amountUnder, same]

/-- Under a name that stands once there is one cell. -/
theorem amountUnder_zip (distinct : columns.Nodup) (here : columns[position]? = some name) :
    amountUnder name (columns.zip row) = amount (row[position]?.getD .null) := by
  induction columns generalizing position row with
  | nil => cases here
  | cons column columns ih =>
    obtain ⟨fresh, distinct⟩ := List.nodup_cons.mp distinct
    cases row with
    | nil => rfl
    | cons cell row =>
      rw [List.zip_cons_cons, amountUnder_cons]
      cases position with
      | zero =>
        obtain rfl : column = name := Option.some.inj here
        have others : amountUnder column (columns.zip row) = 0 :=
          amountUnder_eq_zero fun cell member same => fresh (same ▸ (List.of_mem_zip member).1)
        rw [if_pos rfl, others, Int.add_zero]
        rfl
      | succ position =>
        have member : name ∈ columns := List.mem_of_getElem? here
        have other : column ≠ name := fun same => fresh (same ▸ member)
        rw [if_neg other, Int.zero_add]
        exact ih distinct here

theorem columnTotal_eq_zero {set : ResultSet} (absent : name ∉ set.columns) :
    columnTotal set name = 0 := by
  have zero : ∀ row ∈ set.rows, amountUnder name (set.columns.zip row) = 0 := fun row _ =>
    amountUnder_eq_zero fun cell member same => absent (same ▸ (List.of_mem_zip member).1)
  rw [columnTotal, List.map_congr_left zero, List.map_const', List.sum_replicate, nsmul_zero]

/-! ## Positions -/

theorem findIdx?_reverse_of_not_mem (absent : name ∉ columns) :
    columns.reverse.findIdx? (fun c => c == name) = none := by
  rw [List.findIdx?_eq_none_iff]
  intro column member
  rw [beq_eq_false_iff_ne]
  rintro rfl
  exact absent (List.mem_reverse.mp member)

theorem lastPosition?_eq_none (absent : name ∉ columns) :
    RecordKind.lastPosition? name columns = none := by
  rw [RecordKind.lastPosition?, findIdx?_reverse_of_not_mem absent]
  rfl

theorem lastPosition?_append {before after : List String} (absent : name ∉ after) :
    RecordKind.lastPosition? name (before ++ name :: after) = some before.length := by
  have found : (before ++ name :: after).reverse.findIdx? (fun c => c == name) =
      some after.length := by
    rw [List.reverse_append, List.reverse_cons, List.append_assoc, List.findIdx?_append,
      findIdx?_reverse_of_not_mem absent]
    simp [List.findIdx?_cons]
  rw [RecordKind.lastPosition?, found, Option.map_some, List.length_append, List.length_cons]
  congr 1
  omega

/-- Where columns can be told apart, the last of a name is the only one. -/
theorem lastPosition?_eq_some (distinct : columns.Nodup) (here : columns[position]? = some name) :
    RecordKind.lastPosition? name columns = some position := by
  obtain ⟨bound, at_⟩ := List.getElem?_eq_some_iff.mp here
  have split : columns = columns.take position ++ name :: columns.drop (position + 1) := by
    rw [← at_, List.getElem_cons_drop, List.take_append_drop]
  have absent : name ∉ columns.drop (position + 1) := by
    rw [split] at distinct
    exact (List.nodup_cons.mp (List.nodup_append.mp distinct).2.1).1
  rw [split, lastPosition?_append absent, List.length_take, Nat.min_eq_left (Nat.le_of_lt bound)]

/-! ## Totals -/

/-- Adding up a column goes well where it has cells that can be added up. -/
theorem total_amounts {kind : FieldKind} (whole : kind ≠ .timer)
    (cells : ∀ row ∈ rows, ∃ v, row[position]? = some v ∧ IsAmount v) (sum : Int) :
    RecordKind.total kind position (.whole sum) rows =
      .ok (.whole (sum + (rows.map fun row => amount (row[position]?.getD .null)).sum)) := by
  induction rows generalizing sum with
  | nil =>
    rw [List.map_nil, List.sum_nil, Int.add_zero]
    rfl
  | cons row rows ih =>
    obtain ⟨⟨v, here, counts⟩, cells⟩ := List.forall_mem_cons.mp cells
    rw [List.map_cons, List.sum_cons, ← Int.add_assoc, ← ih cells]
    simp only [RecordKind.total, here, number_amount whole counts]
    rfl

/-- A record by name holds the total of its column for each field. -/
theorem ofNamedRows_eq {set : ResultSet}
    (whole : ∀ f ∈ k.fields, f.kind = .counter ∨ f.kind = .gauge) (addable : Addable k set) :
    k.ofNamedRows set = .ok (k.fields.map fun f => .whole (columnTotal set f.name)) := by
  refine mapM_eq_ok fun f field => ?_
  have start : RecordKind.totalZero f.kind = .whole 0 := by
    rcases whole f field with kind | kind <;> rw [kind] <;> rfl
  have untimed : f.kind ≠ .timer := by
    rcases whole f field with kind | kind <;> rw [kind] <;> nofun
  by_cases named : f.name ∈ set.columns
  · obtain ⟨position, here⟩ := List.mem_iff_getElem?.mp named
    have cells : ∀ row ∈ set.rows, ∃ v, row[position]? = some v ∧ IsAmount v := by
      intro row member
      have bound : position < row.length := by
        rw [addable.wide row member]
        exact (List.getElem?_eq_some_iff.mp here).1
      have cell := List.getElem?_eq_getElem bound
      have under : (f.name, row[position]) ∈ set.columns.zip row :=
        List.mem_of_getElem? (List.getElem?_zip_eq_some.mpr ⟨here, cell⟩)
      exact ⟨_, cell, addable.amounts row member _ under (List.mem_map_of_mem field)⟩
    rw [lastPosition?_eq_some addable.distinct here]
    dsimp only
    rw [start, total_amounts untimed cells, Int.zero_add, columnTotal]
    simp only [amountUnder_zip addable.distinct here]
  · rw [lastPosition?_eq_none named, columnTotal_eq_zero named]
    exact congrArg Except.ok start

/-! ## Rows and columns -/

theorem columnTotal_append (columns : List String) (rows more : List (List Value)) (name : String) :
    columnTotal ⟨columns, rows ++ more⟩ name =
      columnTotal ⟨columns, rows⟩ name + columnTotal ⟨columns, more⟩ name := by
  rw [columnTotal, List.map_append, List.sum_append]
  rfl

theorem columnTotal_perm {others : List (List Value)} (h : others.Perm rows) :
    columnTotal ⟨columns, others⟩ name = columnTotal ⟨columns, rows⟩ name :=
  (h.map _).sum_eq

/-- The cells of a row, in columns of some order, with more cells under names that no field has. -/
def Widened (k : RecordKind) (columns widerColumns : List String) (row wider : List Value) : Prop :=
  ∃ extra : List (String × Value), (∀ cell ∈ extra, cell.1 ∉ k.names) ∧
    (widerColumns.zip wider).Perm (columns.zip row ++ extra)

/-- The total of a field is not changed by the order of columns, nor by columns of no field. -/
theorem columnTotal_widened {wider : ResultSet} (named : name ∈ k.names)
    (h : List.Forall₂ (Widened k columns wider.columns) rows wider.rows) :
    columnTotal wider name = columnTotal ⟨columns, rows⟩ name := by
  rcases wider with ⟨widerColumns, widerRows⟩
  dsimp only at h
  induction h with
  | nil => rfl
  | @cons row wider rows widerRows first _ ih =>
    obtain ⟨extra, foreign, perm⟩ := first
    have extraTotal : amountUnder name extra = 0 :=
      amountUnder_eq_zero fun cell member same => foreign cell member (same ▸ named)
    have same : amountUnder name (widerColumns.zip wider) = amountUnder name (columns.zip row) := by
      rw [amountUnder_perm perm, amountUnder_append, extraTotal, Int.add_zero]
    show amountUnder name (widerColumns.zip wider) + columnTotal ⟨widerColumns, widerRows⟩ name =
      amountUnder name (columns.zip row) + columnTotal ⟨columns, rows⟩ name
    rw [same, ih]

theorem Addable.perm {others : List (List Value)} (h : Addable k ⟨columns, rows⟩)
    (perm : others.Perm rows) : Addable k ⟨columns, others⟩ where
  distinct := h.distinct
  wide row member := h.wide row (perm.subset member)
  amounts row member := h.amounts row (perm.subset member)

theorem Addable.append {more : List (List Value)} (h : Addable k ⟨columns, rows⟩)
    (h' : Addable k ⟨columns, more⟩) : Addable k ⟨columns, rows ++ more⟩ where
  distinct := h.distinct
  wide := List.forall_mem_append.mpr ⟨h.wide, h'.wide⟩
  amounts := List.forall_mem_append.mpr ⟨h.amounts, h'.amounts⟩

/-- **A record by name holds for each field the total of its column over all rows.** A null adds
nothing, and a field without a column is zero. The order of rows does not matter, nor that of the
columns with their cells, nor columns of no field; and the record of two lists of rows is the sum of
their records, field by field. -/
theorem totals_by_name (k : RecordKind) (columns : List String) (rows : List (List Value))
    (whole : ∀ f ∈ k.fields, f.kind = .counter ∨ f.kind = .gauge)
    (addable : Addable k ⟨columns, rows⟩) :
    k.ofNamedRows ⟨columns, rows⟩ =
        .ok (k.fields.map fun f => .whole (columnTotal ⟨columns, rows⟩ f.name)) ∧
      (∀ (position : Nat) (name : String), columns[position]? = some name →
        columnTotal ⟨columns, rows⟩ name =
          (rows.map fun row => amount (row[position]?.getD .null)).sum) ∧
      (∀ name, name ∉ columns → columnTotal ⟨columns, rows⟩ name = 0) ∧
      (∀ others, others.Perm rows →
        k.ofNamedRows ⟨columns, others⟩ = k.ofNamedRows ⟨columns, rows⟩) ∧
      (∀ wider : ResultSet, Addable k wider →
        List.Forall₂ (Widened k columns wider.columns) rows wider.rows →
        k.ofNamedRows wider = k.ofNamedRows ⟨columns, rows⟩) ∧
      ∀ more, Addable k ⟨columns, more⟩ →
        ∃ totals moreTotals : List Int,
          k.ofNamedRows ⟨columns, rows⟩ = .ok (totals.map .whole) ∧
          k.ofNamedRows ⟨columns, more⟩ = .ok (moreTotals.map .whole) ∧
          k.ofNamedRows ⟨columns, rows ++ more⟩ =
            .ok ((List.zipWith (· + ·) totals moreTotals).map .whole) := by
  refine ⟨ofNamedRows_eq whole addable, fun position name here => ?_,
    fun name absent => columnTotal_eq_zero absent, fun others perm => ?_,
    fun wider wide related => ?_, fun more addableMore => ?_⟩
  · simp only [columnTotal, amountUnder_zip addable.distinct here]
  · rw [ofNamedRows_eq whole (addable.perm perm), ofNamedRows_eq whole addable]
    simp only [columnTotal_perm perm]
  · rw [ofNamedRows_eq whole wide, ofNamedRows_eq whole addable]
    congr 1
    refine List.map_congr_left fun f field => ?_
    rw [columnTotal_widened (List.mem_map_of_mem field) related]
  · refine ⟨k.fields.map fun f => columnTotal ⟨columns, rows⟩ f.name,
      k.fields.map fun f => columnTotal ⟨columns, more⟩ f.name, ?_, ?_, ?_⟩
    · rw [ofNamedRows_eq whole addable, List.map_map]
      rfl
    · rw [ofNamedRows_eq whole addableMore, List.map_map]
      rfl
    · rw [ofNamedRows_eq whole (addable.append addableMore), List.zipWith_map, List.zipWith_self,
        List.map_map]
      simp only [columnTotal_append]
      rfl

/-- The traffic of two databases, as the console of a connection pooler returns it. -/
def twoDatabases : ResultSet where
  columns := ["database", "total_xact_count", "total_sent"]
  rows := [[.text "shop", .int 10, .null], [.text "blog", .int 5, .int 7]]

/-- The same, returned by another release. -/
def twoDatabasesLater : ResultSet where
  columns := ["total_sent", "database", "total_xact_count", "avg_sent"]
  rows := [[.null, .text "shop", .int 10, .int 1], [.int 7, .text "blog", .int 5, .null]]

theorem totals_by_name_pooler :
    Addable { fields := pbStatsFields } twoDatabases ∧
      Addable { fields := pbStatsFields } twoDatabasesLater ∧
      RecordKind.ofNamedRows { fields := pbStatsFields } twoDatabasesLater =
        .ok ([15, 0, 0, 7, 0, 0, 0].map .whole) := by
  have whole : ∀ f ∈ pbStatsFields, f.kind = .counter ∨ f.kind = .gauge := by decide
  have addable : Addable { fields := pbStatsFields } twoDatabases :=
    ⟨by decide, by decide, by decide⟩
  have later : Addable { fields := pbStatsFields } twoDatabasesLater :=
    ⟨by decide, by decide, by decide⟩
  have first : ∀ sent database count average : String × Value,
      [sent, database, count, average].Perm ([database, count, sent] ++ [average]) :=
    fun sent database count average => @List.perm_middle _ sent [database, count] [average] |>.symm
  have widened : List.Forall₂ (Widened { fields := pbStatsFields } twoDatabases.columns
      twoDatabasesLater.columns) twoDatabases.rows twoDatabasesLater.rows :=
    .cons ⟨[("avg_sent", .int 1)], by decide, first _ _ _ _⟩
      (.cons ⟨[("avg_sent", .null)], by decide, first _ _ _ _⟩ .nil)
  obtain ⟨totals, -, -, -, same, -⟩ :=
    totals_by_name { fields := pbStatsFields } _ _ whole addable
  refine ⟨addable, later, (same _ later widened).trans (totals.trans ?_)⟩
  rfl

end PgVitals.Monitor
