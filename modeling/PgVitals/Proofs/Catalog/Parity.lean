import PgVitals.Catalog.Snapshot
import PgVitals.Monitor.Collector
import PgVitals.Proofs.Catalog.Rendering
import PgVitals.Proofs.Monitor.Difference
import PgVitals.Proofs.Session.Answers
/-!
# Templates and records

The query on a domain and the record of that domain are written down apart from each other, and
cells find their fields by their place in the row alone. They agree on every release: the columns
come under the names of the fields and in their order, because the template of a domain has one
column for each field and a literal for what a release does not have.

* `ofNamedCells` is the record of a row whose columns have names, and `readCells_eq_ofNamedCells`
  says that under the names of the fields, each once, the place of a cell says as much as the name
  of its column.
* `Mirrors` says of a template that it was made for a kind of record, and `templates_mirror` that
  each domain of the monitor has such a record. This is the only place where the domains are gone
  through.
* `Agrees` and `Refuses` are what holds on a release with the statistics of a domain and on one
  without; `Mirrors.agrees` and `refuses` prove them from `Mirrors` alone.
* `snapshot_sourced` says that every view of a snapshot can be read from its first release on.

A new domain has to keep to `Mirrors` and needs no other proof. On a release that is too old, the
failure tells what is needed, and it comes before anything is sent. The consoles of the connection
pooler return columns by name and have no template; they are in `Proofs/Monitor/Totals`.
-/

namespace PgVitals.Monitor

open PgVitals.Catalog

/-! ## Records by name -/

namespace RecordKind

/-- The cell in the column of a name. -/
def cellNamed? (columns : List String) (row : List Value) (name : String) : Option Value :=
  (columns.zip row).lookup name

/-- The record of a row whose columns have names: each field is what the cell in the column of its
name holds. -/
def ofNamedCells (columns : List String) (row : List Value) (fields : List Field) :
    Except Fault Record :=
  fields.mapM fun f =>
    match cellNamed? columns row f.name with
    | some cell => reading f.kind cell
    | none => .error .missingItem

variable {columns : List String} {row : List Value}

/-- A column in front is passed over by fields of other names. -/
theorem ofNamedCells_cons (name : String) (cell : Value) {fields : List Field}
    (other : name ∉ fields.map Field.name) :
    ofNamedCells (name :: columns) (cell :: row) fields = ofNamedCells columns row fields := by
  induction fields with
  | nil => rfl
  | cons f fields ih =>
    rw [List.map_cons, List.mem_cons, not_or] at other
    have differs : (f.name == name) = false := by simpa using Ne.symm other.1
    have passed : cellNamed? (name :: columns) (cell :: row) f.name =
        cellNamed? columns row f.name := by
      rw [cellNamed?, List.zip_cons_cons, List.lookup_cons, differs]
      rfl
    have rest := ih other.2
    unfold ofNamedCells at rest ⊢
    rw [List.mapM_cons, List.mapM_cons, passed, rest]

/-- Where the columns have the names of the fields, each once, the place of a cell says as much as
the name of its column. -/
theorem readCells_eq_ofNamedCells {fields : List Field} (distinct : (fields.map Field.name).Nodup)
    (full : row.length = fields.length) :
    readCells fields row = ofNamedCells (fields.map Field.name) row fields := by
  induction fields generalizing row with
  | nil => rfl
  | cons f fields ih =>
    cases row with
    | nil => cases full
    | cons cell row =>
      rw [List.map_cons, List.nodup_cons] at distinct
      have own : cellNamed? (f.name :: fields.map Field.name) (cell :: row) f.name = some cell := by
        rw [cellNamed?, List.zip_cons_cons, List.lookup_cons, beq_self_eq_true]
      have rest := ih distinct.2 (by simpa using full)
      rw [← ofNamedCells_cons f.name cell distinct.1] at rest
      unfold ofNamedCells at rest ⊢
      rw [List.map_cons, List.mapM_cons, own, ← rest]
      rfl

end RecordKind

/-! ## Templates of records -/

/-- A template made for a kind of record: there is always something to read from, and one column for
each field. -/
structure Mirrors (t : Template) (kind : RecordKind) : Prop where
  sourced : t.isSourced = true
  untimed : t.timestamp = false
  literal : t.missing.isSome = true
  columns : t.columns.map Column.name = kind.names
  distinct : kind.names.Nodup
  /-- The domain is not one of the connection pooler. -/
  queried : Monitor.consoleCommand? t.domain = none

instance (t : Template) (kind : RecordKind) : Decidable (Mirrors t kind) :=
  decidable_of_iff
    (t.isSourced = true ∧ t.timestamp = false ∧ t.missing.isSome = true ∧
      t.columns.map Column.name = kind.names ∧ kind.names.Nodup ∧
      Monitor.consoleCommand? t.domain = none)
    ⟨fun ⟨a, b, c, d, e, f⟩ => ⟨a, b, c, d, e, f⟩, fun ⟨a, b, c, d, e, f⟩ => ⟨a, b, c, d, e, f⟩⟩

/-- Each domain of the monitor has a record that its template was made for. -/
theorem templates_mirror :
    ∀ t ∈ Monitor.templates, ∃ kind ∈ recordKind? t.domain, Mirrors t kind := by
  decide +kernel

/-- Every view of a snapshot can be read from its first release on. -/
theorem snapshot_sourced : ∀ t ∈ Snapshot.templates, t.isSourced = true := by
  decide +kernel

theorem mem_of_template? {domain : Domain} {t : Template}
    (h : Monitor.template? domain = some t) : t.domain = domain ∧ t ∈ Monitor.templates := by
  refine ⟨?_, List.mem_of_find?_eq_some h⟩
  have found := List.find?_some h
  simpa using found

namespace Mirrors

variable {t : Template} {kind : RecordKind} {release : Release}

theorem columnNames_eq (h : Mirrors t kind) : t.columnNames release = kind.names := by
  rw [Template.columnNames_of_missing h.untimed h.literal, h.columns]

theorem selectList_showsAs (h : Mirrors t kind) :
    List.Forall₂ ShowsAs (t.selectList release) kind.names := by
  have shows : List.Forall₂ ShowsAs (t.selectList release) (t.columnNames release) :=
    Template.selectList_showsAs h.untimed
  rwa [h.columnNames_eq] at shows

end Mirrors

/-! ## On one release -/

/-- What holds of a domain on a release that has its statistics. -/
structure Agrees (domain : Domain) (t : Template) (kind : RecordKind) (release : Release) :
    Prop where
  renders : ∀ filter, ∃ statement, t.render release filter = .ok statement
  names : t.columnNames release = kind.names
  items : List.Forall₂ ShowsAs (t.selectList release) kind.names
  starts : ∀ filter humanReadable, ∃ c,
    Collector.start ⟨domain, filter, humanReadable⟩ (some release) = .ok c ∧
      t.render release filter = .ok c.statement
  /-- A row that is as wide as the record makes one, each field from the column of its name. -/
  reads : kind.multirow = false → ∀ filter humanReadable c,
    Collector.start ⟨domain, filter, humanReadable⟩ (some release) = .ok c →
    ∀ w s set row rest, Run.answer? w s c.statement = some set → set.rows = row :: rest →
      row.length = (t.columnNames release).length →
      c.read.perform w s =
        (Run.ofFault (([·]) <$>
          RecordKind.ofNamedCells (t.columnNames release) row kind.fields)).perform w
            (s.answered w c.statement)

/-- What holds of a domain on a release that does not have its statistics: nothing is rendered, and
nothing is asked. -/
structure Refuses (domain : Domain) (t : Template) (release : Release) : Prop where
  renders : ∀ filter, t.render release filter = .error (.releaseTooLow t.feature t.since)
  requires : t.require release = .error (.releaseTooLow t.feature t.since)
  checks : ∀ w s, (checkAvailable domain release).perform w s =
    (.error (.failed (.releaseTooLow t.feature t.since)), s)

section

variable {domain : Domain} {t : Template} {kind : RecordKind} {release : Release}

/-- A row as wide as the record is read in the order of the fields, and so by their names. -/
theorem Collector.records_of_row {c : Collector} {set : ResultSet} {row : List Value}
    {rest : List (List Value)} (asked : c.named = false) (one : c.kind.multirow = false)
    (distinct : c.kind.names.Nodup) (rows : set.rows = row :: rest)
    (full : row.length = c.kind.names.length) :
    c.records set = ([·]) <$> RecordKind.ofNamedCells c.kind.names row c.kind.fields := by
  have wide : row.length = c.kind.fields.length := by
    rw [full, RecordKind.names, List.length_map]
  have byName : c.kind.ofRow row = RecordKind.ofNamedCells c.kind.names row c.kind.fields :=
    RecordKind.readCells_eq_ofNamedCells distinct wide
  simp only [Collector.records, asked, one, rows, List.head?_cons, Option.getD_some, byName,
    Bool.false_eq_true, if_false, bind_pure_comp]

theorem Mirrors.start_eq (h : Mirrors t kind) (found : Monitor.template? domain = some t)
    (known : recordKind? domain = some kind) (filter : Value) (humanReadable : Bool) :
    Collector.start ⟨domain, filter, humanReadable⟩ (some release) =
      (t.render release filter).map fun statement =>
        ⟨.start kind, statement, false, humanReadable⟩ := by
  have queried : Monitor.consoleCommand? domain = none := by
    rw [← (mem_of_template? found).1]
    exact h.queried
  simp only [Collector.start, known, queried, found]
  cases t.render release filter <;> rfl

theorem Mirrors.agrees (h : Mirrors t kind) (found : Monitor.template? domain = some t)
    (known : recordKind? domain = some kind) (since : t.since ≤ release) :
    Agrees domain t kind release where
  renders := Template.render_ok h.sourced since
  names := h.columnNames_eq
  items := h.selectList_showsAs
  starts := by
    intro filter humanReadable
    obtain ⟨statement, rendered⟩ := Template.render_ok h.sourced since filter
    rw [h.start_eq found known, rendered]
    exact ⟨_, rfl, rfl⟩
  reads := by
    intro one filter humanReadable c started w s set row rest answer rows full
    rw [h.start_eq found known] at started
    obtain ⟨statement, -, rfl⟩ := exists_of_map_ok started
    rw [h.columnNames_eq] at full ⊢
    have records := Collector.records_of_row
      (c := ⟨.start kind, statement, false, humanReadable⟩) rfl one h.distinct rows full
    rw [Collector.read, Run.perform_bind_ok (Run.perform_fetch_answered answer), records]
    rfl

/-- The release is looked at before the server is asked whether an extension is there. -/
theorem refuses (found : Monitor.template? domain = some t) (low : ¬ t.since ≤ release) :
    Refuses domain t release where
  renders := Template.render_of_not_le low
  requires := Template.require_of_not_le low
  checks := by
    intro w s
    simp only [checkAvailable, found]
    rw [Template.require_of_not_le low]
    rfl

end

/-- **Templates and records agree on every release.** From its first release on, the query on a
domain can be rendered for any filter and has, in order, one column for each field of the domain's
record, under the name of that field; so cells go into the fields of their names. On an older
release every way to the query fails with what it needs, and nothing is sent. The views of a
snapshot can be rendered on every release from their first on. -/
theorem templates_agree :
    (∀ domain t, Monitor.template? domain = some t → ∃ kind,
      recordKind? domain = some kind ∧ ∀ release,
        (t.since ≤ release → Agrees domain t kind release) ∧
        (¬ t.since ≤ release → Refuses domain t release)) ∧
    ∀ t ∈ Snapshot.templates, ∀ release, t.since ≤ release →
      ∀ filter, ∃ statement, t.render release filter = .ok statement := by
  refine ⟨?_, ?_⟩
  · intro domain t found
    obtain ⟨own, member⟩ := mem_of_template? found
    obtain ⟨kind, known, mirrors⟩ := templates_mirror t member
    rw [own] at known
    refine ⟨kind, known, fun release => ⟨?_, ?_⟩⟩
    · exact fun since => mirrors.agrees found known since
    · exact fun low => refuses found low
  · intro t member release since filter
    exact Template.render_ok (snapshot_sourced t member) since filter

/-- A server that counts five archived files and two failures. -/
def archiving : Surroundings where
  reply _ _ := { outcome := .result ⟨["archived_count", "failed_count"], [[.int 5, .int 2]]⟩ }

/-- The collector of the archiver of release 17. -/
def archiverCollector : Collector :=
  ⟨.start { fields := archiverFields },
    .plain "SELECT archived_count, failed_count FROM pg_stat_archiver", false, false⟩

theorem templates_agree_archiver :
    Monitor.archiver.since ≤ ⟨17, 0⟩ ∧
      Monitor.archiver.columnNames ⟨17, 0⟩ = ["archived_count", "failed_count"] ∧
      (archiverCollector.read.perform archiving {}).1 = .ok [[.whole 5, .whole 2]] ∧
      ¬ Monitor.archiver.since ≤ ⟨9, 3⟩ ∧
      (checkAvailable .archiver ⟨9, 3⟩).perform archiving {} =
        (.error (.failed (.releaseTooLow "the archiver statistic" ⟨9, 4⟩)), {}) ∧
      ∃ statement, Snapshot.activity.render ⟨17, 0⟩ .null = .ok statement := by
  obtain ⟨monitored, dumped⟩ := templates_agree
  obtain ⟨kind, known, releases⟩ := monitored .archiver Monitor.archiver rfl
  cases known
  have since : Monitor.archiver.since ≤ ⟨17, 0⟩ := by decide
  have low : ¬ Monitor.archiver.since ≤ ⟨9, 3⟩ := by decide
  have agrees := (releases ⟨17, 0⟩).1 since
  have read := agrees.reads rfl .null false archiverCollector rfl archiving {} _ [.int 5, .int 2] []
    rfl rfl rfl
  have refuses := (releases ⟨9, 3⟩).2 low
  refine ⟨since, agrees.names, ?_, low, refuses.checks _ _, ?_⟩
  · rw [read]
    rfl
  · have member : Snapshot.activity ∈ Snapshot.templates := List.mem_cons_self
    exact dumped _ member ⟨17, 0⟩ (by decide) .null

end PgVitals.Monitor
