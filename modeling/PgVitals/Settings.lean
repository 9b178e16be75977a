import PgVitals.Failure
import PgVitals.Value
/-!
# Settings

The settings file is a mapping of sections, one for the connection and one for each utility. What it
does not mention has a default. Most values are taken as they stand: whoever uses a value judges it.

* `Settings` has a part for the connection and for each utility, and `Settings.ofEntries` reads it
  out of a mapping. The sections are read in a fixed order, and the first that is no mapping is an
  error of configuration.
* Two values are converted while they are read, the interval of traces and the titles that a report
  leaves out, by `excludedOf`; what does not convert is a fault.
* `Settings.pick` and `Settings.connectionFor` put the command line before the settings.

A section or a key that nobody knows is passed over. Values are those of `Value`, whatever kind they
are of; `Settings.isFinite` tells settings that hold themselves, which a document can bring about.
-/

namespace PgVitals

open PgVitals.Number

/-- How to reach the server. -/
structure ConnectionSettings where
  host : Value := .null
  port : Value := .null
  user : Value := .null
  database : Value := .null
deriving Inhabited

/-- Settings of snapshots. -/
structure SnapshotSettings where
  directory : Value := .text "./"
  quiet : Bool := false
deriving Inhabited

/-- Settings of the monitor. -/
structure MonitorSettings where
  subject : Value := .text "bgwriter"
  interval : Value := .int 1
  count : Value := .null
  humanReadable : Bool := false
  /-- Whether the header is printed only once. -/
  singleHeader : Bool := false
deriving Inhabited

/-- Settings of traces. -/
structure TraceSettings where
  interval : Float := 1.0
  workers : Bool := false
deriving Inhabited

/-- The settings of the program. -/
structure Settings where
  connection : ConnectionSettings := {}
  snapshot : SnapshotSettings := {}
  monitor : MonitorSettings := {}
  trace : TraceSettings := {}
  /-- The number of groups in the map of free space. -/
  groups : Value := .int 20
  /-- The titles of sections that the report leaves out. -/
  excluded : List Value := []
deriving Inhabited

namespace Settings

/-- The entries of a section. A section that is missing or empty has none. -/
def section? (name : String) (all : List (Value × Value)) :
    Except Failure (List (Value × Value)) :=
  match (Value.lookup? name all).filter Value.truthy with
  | none => .ok []
  | some (.map entries) => .ok entries
  | some _ => .error (.config (.sectionNotMapping name))

/-- The value under a key, or a default. -/
def valueOr (default : Value) (key : String) (entries : List (Value × Value)) : Value :=
  (Value.lookup? key entries).getD default

/-- Whether the value under a key counts as true. -/
def flag (key : String) (entries : List (Value × Value)) : Bool :=
  (valueOr (.bool false) key entries).truthy

/-- Turns a fault into a failure. -/
def orFault {α : Type} : Except Fault α → Except Failure α
  | .ok a => .ok a
  | .error fault => .error (.fault fault)

/-- The titles to leave out: one text, or the items of a list. -/
def excludedOf (entries : List (Value × Value)) : Except Fault (List Value) :=
  match valueOr .null "exclude" entries with
  | .text s => .ok (if s.isEmpty then [] else [.text s])
  | v => if v.truthy then v.items else .ok []

/-- The settings in a mapping. -/
def ofEntries (all : List (Value × Value)) : Except Failure Settings := do
  let connection ← section? "connection" all
  let snapshot ← section? "csvstat" all
  let monitor ← section? "stat" all
  let trace ← section? "waitevent" all
  let interval ← orFault (valueOr (.float 1.0) "interval" trace).toFloat
  let map ← section? "fsm" all
  let report ← section? "report" all
  let excluded ← orFault (excludedOf report)
  return {
    connection := {
      host := valueOr .null "host" connection
      port := valueOr .null "port" connection
      user := valueOr .null "user" connection
      database := valueOr .null "dbname" connection }
    snapshot := {
      directory := valueOr (.text "./") "directory" snapshot
      quiet := flag "quiet" snapshot }
    monitor := {
      subject := valueOr (.text "bgwriter") "stat" monitor
      interval := valueOr (.int 1) "interval" monitor
      count := valueOr .null "count" monitor
      humanReadable := flag "human_readable" monitor
      singleHeader := flag "no_redisplay_header" monitor }
    trace := { interval := interval, workers := flag "include_leader_workers" trace }
    groups := valueOr (.int 20) "groups" map
    excluded := excluded }

/-- Whether the settings can be written out to their end. -/
def isFinite (s : Settings) : Bool :=
  ([s.connection.host, s.connection.port, s.connection.user, s.connection.database,
    s.snapshot.directory, s.monitor.subject, s.monitor.interval, s.monitor.count, s.groups] ++
      s.excluded).all Value.isFinite

/-- A value of the command line, or the setting where the command line gives none. -/
def pick (given setting : Value) : Value :=
  match given with
  | .null => setting
  | given => given

/-- How to reach the server: the command line comes before the settings, and for the name of the
database the environment comes after them. -/
def connectionFor (settings : Settings) (environment : String → Option String)
    (given : ConnectionSettings) : ConnectionSettings :=
  let database :=
    match pick given.database settings.connection.database with
    | .null => .text (((environment "PGDATABASE").filter fun s => !s.isEmpty).getD "postgres")
    | v => v
  { host := pick given.host settings.connection.host
    port := pick given.port settings.connection.port
    user := pick given.user settings.connection.user
    database := database }

end Settings

end PgVitals
