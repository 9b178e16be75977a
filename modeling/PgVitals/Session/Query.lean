import PgVitals.Session.Run
import PgVitals.Release.Reading
/-!
# Statements of a session

Every statement goes through `Run.fetch`, which turns the errors of the driver into failures of the
program: a cancelled statement interrupts the run, an error on a connection that is gone is a
connection failure, and any other error is a refused query that carries the statement's text.

* `Run.send` hands a statement to the server, unless the connection is closed. `Session.answered` is
  the session after that.
* `Run.classify` says what an error means, and `Run.fetch` is the two together.
* `Run.rows`, `Run.execute` and `Run.firstCell` are for callers that need less of the answer.
* `Run.fetchRelease` asks a server for its release, and gives a refusal another name.

The first cell of a row without cells is a fault, and so is the first row of none. Results come as a
whole; nothing is read in portions.
-/

namespace PgVitals

open PgVitals.Text

/-- The driver's refusal to use a connection that is closed. -/
def connectionClosed : DriverError := ⟨.interface, "connection already closed", none, none⟩

/-- The server's message on an error, or else the driver's text, without blanks around it. -/
def DriverError.reason (e : DriverError) : String :=
  trim ((e.detail.filter fun detail => !detail.isEmpty).getD e.text)

namespace Session

/-- The session after a statement was answered: signals arrive while it is under way, and the
connection may be gone afterwards. -/
def answered (w : Surroundings) (statement : Statement) (s : Session) : Session :=
  let reply := w.reply s.past statement
  let s := { s with past := .asked statement reply :: s.past }
  let s := s.receiveAll reply.signals
  let s := s.receiveAll (w.arrivals s.past)
  if reply.closes then { s with link := .lost } else s

end Session

namespace Run

/-- Sends a statement; the driver's errors are not classified yet. Nothing is sent over a closed
connection. -/
def send (statement : Statement) : Run ResultSet := do
  let s ← get
  let w ← read
  if s.link ≠ .up then fail (.driver connectionClosed)
  else
    set (s.answered w statement)
    match (w.reply s.past statement).outcome with
    | .done => return .empty
    | .result set => return set
    | .refused error => fail (.driver error)

/-- What an error of the driver means for the run. -/
def classify {α : Type} (sql : String) (error : DriverError) : Run α := do
  if error.kind = .cancelled then fail (.interrupted .cancelledQuery)
  else if (← get).link ≠ .up then fail (.connection (.lost (trim error.text)))
  else
    log .debug ("query failed: " ++ error.reason)
    fail (.query error.reason sql error.code)

/-- Sends a statement and returns its result. -/
def fetch (statement : Statement) : Run ResultSet :=
  rescue (send statement) fun
    | .driver error => classify statement.sql error
    | failure => fail failure

/-- Sends a query and returns its rows. -/
def rows (statement : Statement) : Run (List (List Value)) := do
  return (← fetch statement).rows

/-- Sends a statement whose result is not needed. -/
def execute (sql : String) : Run Unit := do
  let _ ← fetch (.plain sql)

/-- The first cell of the first row. -/
def firstCell (rows : List (List Value)) : Run Value :=
  match rows with
  | (cell :: _) :: _ => pure cell
  | _ => fail (.fault .missingItem)

/-- Closes the connection, unless it is closed. -/
def hangUp : Run Unit := do
  if (← get).link = .up then
    modify fun s => { s with link := .closed }
    note .hungUp

/-- Asks a server for its release. -/
def fetchRelease : Run Release := do
  let rows ← rescue (rows (.plain "SELECT version()")) fun
    | .query message _ _ => fail (.releaseUnknown (.queryFailed message))
    | failure => fail failure
  if rows.isEmpty then fail (.releaseUnknown .noRow)
  else
    let release ← ofExcept (Release.ofCell (← firstCell rows))
    log .info ("Detected release: " ++ release.text)
    return release

end Run

end PgVitals
