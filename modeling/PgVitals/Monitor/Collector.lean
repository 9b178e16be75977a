import PgVitals.Catalog.Monitor
import PgVitals.Monitor.Delta
import PgVitals.Monitor.Layout
import PgVitals.Monitor.Registry
import PgVitals.Monitor.Sampler
import PgVitals.Session.Query
import PgVitals.Session.Terminal
/-!
# Collectors

A collector samples one domain. Each sample sends the query of the domain and turns its rows into
lines of differences. A record is remembered only after its line was made, so a sample that fails
leaves the record to compare with as it was.

* `Subject` is what to monitor, and `Collector.start` the collector of it for a release. The domains
  of the connection pooler need no release, and are asked with commands of its own.
* `Collector.read` asks the server for records, by the places of the columns or, for the pooler, by
  their names.
* `Collector.line` is the line of a record. Where byte counts are to be easy to read, the server is
  asked to write them, all in one statement: `sizeStatement`.
* `Collector.sample` is one sample, and `Collector.source` what a sampler is given.
* `run` monitors a subject from the question for the release on.

Texts of the server that are longer than their columns are printed as they are. What a domain
counts, and since which release, is in the catalog.
-/

namespace PgVitals.Monitor

open PgVitals.Catalog

/-- What to monitor. -/
structure Subject where
  domain : Domain
  /-- The object to look at; null stands for the sum over all of them. -/
  filter : Value
  /-- Whether byte counts are written by the server in units that are easy to read. -/
  humanReadable : Bool

/-- What samples of one domain need. -/
structure Collector where
  engine : Engine
  statement : Statement
  /-- Whether the domain is one of the connection pooler, whose columns go by name. -/
  named : Bool
  humanReadable : Bool

/-! ## Sizes -/

/-- The statement that lets the server write some byte counts. -/
def sizeStatement (amounts : List Value) : Statement :=
  ⟨"SELECT " ++ String.intercalate ", " (amounts.map fun _ => "pg_size_pretty(%s::numeric)"),
    .positional amounts⟩

/-- The byte counts among the values of a line, with the names of their fields. -/
def byteCounts (fields : List Field) (values : List Value) : List (String × Value) :=
  ((fields.zip values).filter fun (f, _) => f.isBytes).map fun (f, v) => (f.name, v)

/-- The sizes of the byte counts of a line as the server writes them, all in one statement. -/
def sizes (fields : List Field) (values : List Value) : Run Sizes := do
  let counts := byteCounts fields values
  if counts.isEmpty then return []
  else
    match ← Run.rows (sizeStatement (counts.map Prod.snd)) with
    | [] => Run.ofFault (.error .missingItem)
    | row :: _ => return (counts.map Prod.fst).zip row

namespace Collector

/-- The collector of a subject, for a server of some release. Domains of the connection pooler need
no release. -/
def start (subject : Subject) (release : Option Release) : Except Failure Collector := do
  match recordKind? subject.domain with
  | none => throw (.fault .missingEntry)
  | some kind =>
    match Monitor.consoleCommand? subject.domain, release with
    | some command, _ => return ⟨.start kind, .plain command, true, subject.humanReadable⟩
    | none, none => throw (.config (.releaseNeeded subject.domain))
    | none, some release =>
      match Monitor.template? subject.domain with
      | none => throw (.fault .missingPart)
      | some template =>
        let statement ← template.render release subject.filter
        return ⟨.start kind, statement, false, subject.humanReadable⟩

/-- The kind of the records. -/
def kind (c : Collector) : RecordKind := c.engine.kind

/-- The lines above the samples. -/
def header (c : Collector) : List String := headerLines c.kind.fields

/-- The records of an answer of the server. -/
def records (c : Collector) (set : ResultSet) : Except Fault (List Record) :=
  if c.named then return [← c.kind.ofNamedRows set]
  else if c.kind.multirow then set.rows.mapM c.kind.ofRow
  else return [← c.kind.ofRow (set.rows.head?.getD [])]

/-- Asks the server for records. -/
def read (c : Collector) : Run (List Record) := do
  Run.ofFault (c.records (← Run.fetch c.statement))

/-- The line of a record. -/
def line (c : Collector) (shown : Record) : Run String := do
  let values := shown.map Reading.value
  let sizes ← if c.humanReadable then sizes c.kind.fields values else pure []
  Run.ofFault (rowLine c.kind.fields values sizes)

/-- The lines of records, and the collector that remembers the last record that was shown. -/
def advance (c : Collector) : List Record → Run (Collector × Except Failure (List String))
  | [] => return (c, .ok [])
  | record :: rest => do
    match ← Run.attempt (c.engine.advance record c.line) with
    | .error failure => return (c, .error failure)
    | .ok (engine, line) =>
      let (c, lines) ← advance { c with engine := engine } rest
      return (c, (line :: ·) <$> lines)

/-- The lines of a sample, and the collector after it. -/
def sample (c : Collector) : Run (Collector × Except Failure (List String)) := do
  match ← Run.attempt c.read with
  | .error failure => return (c, .error failure)
  | .ok records => c.advance records

/-- Collectors as a source of lines. -/
def source : Source Collector where
  header c := return c.header
  sample c := do
    let (c, lines) ← c.sample
    return (c, ← Run.ofExcept lines)

end Collector

/-! ## Runs -/

/-- Refuses a domain that the server does not provide. -/
def checkAvailable (domain : Domain) (release : Release) : Run Unit := do
  match Monitor.template? domain with
  | none => Run.ofFault (.error .missingEntry)
  | some template =>
    Run.ofExcept (template.require release)
    if domain = .statement then
      if (← Run.rows (.plain statementsInstalledQuery)).isEmpty then
        Run.fail (.config .statementsExtensionMissing)

/-- The release of a server that provides the domain; the connection pooler is not asked. -/
def releaseFor (domain : Domain) : Run (Option Release) := do
  match Monitor.consoleCommand? domain with
  | some _ => return none
  | none =>
    let release ← Run.fetchRelease
    checkAvailable domain release
    return some release

/-- The collector of a subject, announced in the log. -/
def prepare (subject : Subject) (release : Option Release) : Run Collector := do
  let collector ← Run.ofExcept (Collector.start subject release)
  Run.log .debug ("monitor query: " ++ collector.statement.sql)
  return collector

/-- The height of the terminal. -/
def terminalHeight : Run Int := do
  return Terminal.rows (← read).environment

/-- Monitors a subject until enough samples were printed or the user ends the run. -/
def run (subject : Subject) (pace : Pace) : Run Unit := do
  let release ← releaseFor subject.domain
  let collector ← prepare subject release
  Sampler.run Collector.source terminalHeight pace collector

end PgVitals.Monitor
