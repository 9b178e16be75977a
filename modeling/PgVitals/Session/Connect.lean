import PgVitals.Session.Query
import PgVitals.Text.Lower
/-!
# Connecting

A run opens one connection, which commits every statement by itself. It is read-only unless the run
has to create objects. Settings that are not given are left to the driver's own defaults.

* `Dial` is what a connection is asked for with, and `Dial.parameters` what the driver is given:
  parameters without a value are left out, and the password may come from the environment.
* `Run.connect` opens the connection. It can fail in two ways: the connection is refused, or it
  cannot be made read-only; in the second case it is closed again.
* `connectionHint` is the advice that goes with the text of a refusal.

Why a connection is refused is a text of the driver, and is a parameter of the surroundings. How the
driver reaches a server, and what it does with the parameters, is its own matter.
-/

namespace PgVitals

open PgVitals.Text

/-- What a connection is asked for with. -/
structure Dial where
  host : Value := .null
  port : Value := .null
  database : Value := .null
  user : Value := .null
  password : Value := .null
  applicationName : Value := .null
  readOnly : Bool := true

namespace Dial

/-- The password: the one that is given, or else the one in the environment. -/
def passwordOr (d : Dial) (environment : String → Option String) : Value :=
  if d.password.truthy then d.password
  else ((environment "PGPASSWORD").map Value.text).getD .null

/-- The parameters for the driver; those without a value are left out. -/
def parameters (d : Dial) (environment : String → Option String) : List (String × Value) :=
  [("host", d.host), ("port", d.port), ("dbname", d.database), ("user", d.user),
    ("password", d.passwordOr environment), ("application_name", d.applicationName)].filter
      fun entry => entry.2.truthy

end Dial

/-- Opens the connection of a run. -/
def Run.connect (d : Dial) : Run Unit := do
  let w ← read
  Run.note (.dialled (d.parameters w.environment))
  if let some text := w.refusal then Run.fail (.connection (.refused (trim text)))
  -- Read-only mode is asked of the server, which can refuse it. To commit every statement by itself
  -- is a property of the connection on this side: to set it on a new connection sends nothing, so
  -- there is nothing to refuse.
  if d.readOnly then
    if let some text := w.configurationError then
      modify fun s => { s with link := .closed }
      Run.note .hungUp
      Run.fail (.connection (.notConfigured (trim text)))
  Run.note (.configured d.readOnly)

/-- What a user may do about a connection that failed. -/
def connectionHint (message : String) (host port : Value) : Option String :=
  if contains message "no password supplied" then
    some "Set the PGPASSWORD environment variable or use a password file."
  else if contains message "does not exist" then
    some "Check that the database name is correct."
  else if contains message "Connection refused" || contains (lower message) "could not connect" then
    some ("Check that PostgreSQL is running on " ++
      (if host.truthy then host.shown else "localhost") ++ ":" ++
      (if port.truthy then port.shown else "5432") ++ ".")
  else none

end PgVitals
