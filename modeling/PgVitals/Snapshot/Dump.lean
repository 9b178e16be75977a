import PgVitals.Csv
import PgVitals.Snapshot.Plan
import PgVitals.Session.Query
/-!
# Taking a snapshot

Each view of the plan is appended to a file of its own. A file is opened before its view is queried,
so that a directory that cannot be written to costs the server nothing; a file that was empty then
gets a line of column names, unless the snapshot is quiet.

* `Sink` is where samples go, and `Handle` a file that is open for appending. Whether a line of
  column names is due is decided when the file is opened.
* `dump` is one view: the file is opened, the query sent, the answer appended and the number of rows
  logged.
* `capabilities` asks the server what the plan depends on, and `run` is a whole snapshot.

A snapshot does not look at the flags of signals. A file that was opened stays, also where its view
fails: it is empty then, or holds what it held. An answer is appended row by row, so a row that
cannot be written leaves those in front of it.
-/

namespace PgVitals.Snapshot

open PgVitals.Catalog PgVitals.Number

/-- Where samples go. -/
structure Sink where
  directory : String
  quiet : Bool
deriving DecidableEq

/-- The path of the file of a view. -/
def Sink.path (sink : Sink) (name : String) : String := Files.join sink.directory (name ++ ".csv")

/-- A file open for appending, and whether a line of column names is due. -/
structure Handle where
  location : Files.Location
  path : String
  header : Bool

/-- Opens the file of a view. -/
def Sink.open (sink : Sink) (name : String) : Run Handle := do
  let s ← get
  let (location, files) ← Run.ofFault (s.files.openAppend (sink.path name))
  set { s with files := files }
  let blank := ((files.content? location).map Files.Tree.isEmptyContent).getD true
  return ⟨location, sink.path name, !sink.quiet && blank⟩

/-- Appends a result set to an open file, and returns the number of rows. A row that cannot be
written ends this; the lines in front of it are in the file all the same. -/
def Handle.write (h : Handle) (set : ResultSet) : Run Nat := do
  modify fun s => { s with files := s.files.append h.location (Csv.block h.header set) }
  Run.ofFault (Csv.verdict set.rows)
  return set.rows.length

/-- Appends to an open file, unless the surroundings refuse it. -/
def Handle.writeOrFail (h : Handle) (set : ResultSet) : Run Nat := do
  match (← read).writeRefusal with
  | some reason => Run.fail (.sink (.notWritten h.path reason))
  | none => h.write set

/-- A fault of the file system as a failure to open the file. -/
def Sink.openFailure (sink : Sink) (name : String) : Failure → Failure
  | .fault fault =>
    match fault.systemReason with
    | some reason => .sink (.notOpened (sink.path name) reason)
    | none => .fault fault
  | failure => failure

/-- Appends the present content of a view to its file, and returns the number of rows. -/
def dump (sink : Sink) (t : Template) (release : Release) : Run Nat := do
  let handle ← Run.rescue (sink.open t.name) fun failure =>
    Run.fail (sink.openFailure t.name failure)
  let statement ← Run.ofExcept (t.render release .null)
  let set ← Run.fetch statement
  let count ← handle.writeOrFail set
  Run.log .debug (t.name ++ ": " ++ natText count ++ " row(s)")
  return count

/-- Whether the user is a superuser; a user the server does not list is none. -/
def isSuperuser : Run Bool := do
  let rows ← Run.rows (.plain Catalog.Snapshot.superuserQuery)
  if rows.isEmpty then return false
  else return (← Run.firstCell rows).truthy

/-- What the user may do and the server has. -/
def capabilities : Run Capabilities := do
  let superuser ← isSuperuser
  let statements ← Run.rows (.plain statementsInstalledQuery)
  return ⟨superuser, !statements.isEmpty⟩

/-- Logs a note for each view that is skipped. -/
def logSkips (release : Release) (granted : Capabilities) (templates : List Template) : Run Unit :=
  (skipNotes release granted templates).forM fun text => Run.log .info text

/-- Dumps views one after the other. -/
def dumpAll (sink : Sink) (release : Release) : List Template → Run (List String)
  | [] => return []
  | t :: rest => do
    let _ ← dump sink t release
    let names ← dumpAll sink release rest
    return t.name :: names

/-- Fails unless a value names a directory. -/
def requireDirectory (directory : Value) : Run Unit := do
  let s ← get
  if !(← Run.ofFault (Files.valueIsDirectory s.files directory)) then
    Run.fail (.config (.missingDirectory directory.shown))

/-- Takes a snapshot, and returns the names of the views dumped. -/
def run (directory : Value) (quiet : Bool) : Run (List String) := do
  requireDirectory directory
  let release ← Run.fetchRelease
  if !quiet then Run.printLine ("Detected release: " ++ release.text)
  let granted ← capabilities
  logSkips release granted Catalog.Snapshot.templates
  match plan release granted Catalog.Snapshot.templates, directory with
  | [], _ => return []
  | views, .text path => dumpAll ⟨path, quiet⟩ release views
  | _, _ => Run.fail (.fault .wrongKind)

end PgVitals.Snapshot
