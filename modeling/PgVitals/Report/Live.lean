import PgVitals.Catalog.Report
import PgVitals.Report.Titled
import PgVitals.Session.Query
/-!
# The report on a server

A report creates a schema for its helper objects, prints its sections and drops the schema. It drops
only a schema that it has created itself, on every way out, and at most once.

* `claimSchema` creates the schema, which is the run's own from then on; `teardown` drops it where
  it is the run's own.
* `setup` creates everything that sections read from. An extension that the server does not have is
  left out, and the sections that need it are skipped.
* `printSection` prints a section: a heading, a value, a table, or that it was skipped.
  `printSections` goes through a plan until the user wants the end.
* `run` is the whole report, with the teardown on every way out.

Whether the schema is the run's own is remembered in the session, and not asked of the server. A
value without a row is printed as nothing; one that cannot be written is a fault.
-/

namespace PgVitals.Report

open PgVitals.Catalog

/-- The SQLSTATE of a schema that is there already. -/
def duplicateSchema : String := "42P06"

/-- What to report on. -/
structure Request where
  /-- The name of the database in headings. -/
  database : String
  /-- The titles of sections to leave out. -/
  excluded : Value

/-! ## Helper objects -/

/-- Makes sure that an extension is installed; says whether the server has it. -/
def installExtension (name : String) : Run Bool := do
  match ← Run.rows ⟨Report.extensionStateQuery, .named [("name", .text name)]⟩ with
  | [] =>
    Run.log .info ("extension " ++ name ++ " is not available on this server")
    return false
  | rows =>
    if !(← Run.firstCell rows).truthy then
      Run.execute (Report.createExtension name)
      Run.log .info ("extension " ++ name ++ " installed")
    return true

/-- Creates the schema, which is the run's own from then on. -/
def claimSchema : Run Unit := do
  Run.rescue (Run.execute Report.createSchema) fun failure =>
    match failure with
    | .query _ _ (some code) =>
      if code = duplicateSchema then Run.fail (.config .schemaExists) else Run.fail failure
    | failure => Run.fail failure
  Run.hold fun h => { h with schema := true }

/-- Installs an extension and remembers it. -/
def provideExtension (name : String) : Run Unit := do
  if ← installExtension name then
    Run.hold fun h =>
      { h with extensions := if h.extensions.contains name then h.extensions
        else name :: h.extensions }

/-- Creates everything that sections read from. -/
def setup : Run Unit := do
  claimSchema
  Run.execute Report.setSearchPath
  Report.extensions.forM provideExtension
  Report.helperObjects.forM Run.execute

/-- Drops the schema, if it is the run's own. -/
def teardown : Run Unit := do
  if (← get).holdings.schema then
    Run.execute Report.dropSchema
    Run.hold fun h => { h with schema := false }

/-- Drops the schema while a failure is under way, as far as that is possible. -/
def dropAfterFailure : Run Unit := do
  if (← get).link = .up then
    Run.rescue teardown fun failure =>
      if failure.isReported then
        Run.log .warning ("could not drop schema after failure: " ++ failure.message)
      else Run.fail failure

/-! ## Sections -/

/-- Prints a line and an empty one. -/
def printParagraph (text : String) : Run Unit := do
  Run.printLine text
  Run.printLine ""

/-- The result of the query of a section. -/
def fetchSection (release : Release) (s : Report.Section) : Run ResultSet :=
  match s.sql? release with
  | some sql => Run.fetch (.plain sql)
  | none => Run.ofFault (.error .wrongKind)

/-- The value a section prints: nothing where there is no row. -/
def valueText (set : ResultSet) : Run String := do
  if set.rows.isEmpty then return ""
  else Run.ofFault (← Run.firstCell set.rows).written

/-- The extension a section needs and the run does not have. -/
def missingExtension? (available : List String) (s : Report.Section) : Option String :=
  match s with
  | .table _ _ (some name) => if name.isEmpty || available.contains name then none else some name
  | _ => none

/-- Prints a section. -/
def printSection (request : Request) (release : Release) (s : Report.Section) : Run Unit := do
  match missingExtension? (← get).holdings.extensions s with
  | some name => printParagraph (s.title ++ ": skipped, extension " ++ name ++ " is not available")
  | none =>
    match s with
    | .heading title => printParagraph ("# " ++ Report.headingText title request.database)
    | .value title _ =>
      let set ← fetchSection release s
      printParagraph (title ++ ": " ++ (← valueText set))
    | .table title _ _ =>
      let set ← fetchSection release s
      Run.printLine (← Run.ofFault (titledTable title set))

/-- Prints sections until the user wants the run to end. -/
def printSections (request : Request) (release : Release) : List Report.Section → Run Unit
  | [] => return
  | s :: rest => do
    if ← Run.shutdownWanted then Run.fail (.interrupted .signal)
    printSection request release s
    printSections request release rest

/-! ## Runs -/

/-- Creates the helper objects and prints the report. -/
def build (request : Request) (release : Release) : Run Unit := do
  setup
  let excluded ← Run.ofFault request.excluded.members
  printSections request release (Report.plan release excluded Report.sections)

/-- Runs the report and leaves nothing of its own on the server. -/
def run (request : Request) : Run Unit := do
  let release ← Run.fetchRelease
  Run.rescue (build request release) fun failure => do
    dropAfterFailure
    Run.fail failure
  teardown

end PgVitals.Report
