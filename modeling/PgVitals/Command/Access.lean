import PgVitals.Command.Invocation
import PgVitals.Session.Connect
import PgVitals.Settings
/-!
# Access to the server

A utility works over one connection, with handlers of signals in place. However its work ends, the
connection is closed, and then the handlers of before are back.

* `Access` is how a utility uses its connection: where the server is, whether the session only
  reads, and which signals have handlers.
* `Access.connect` opens the connection; without one, the user is told why and the program ends.
* `Access.use` works over it. The handlers are set before the connection is asked for.
* `Run.report` and `Run.reportConnection` are the words on standard error.
-/

namespace PgVitals

/-! ## Complaints -/

/-- Tells the user about a failure; for a refused statement, with its text. -/
def Run.report (failure : Failure) : Run Unit := do
  Run.complain ("Error: " ++ failure.message)
  match failure with
  | .query _ sql _ => Run.complain ("query was: " ++ sql)
  | _ => return

/-- Tells the user why there is no connection, and what may help. -/
def Run.reportConnection (cause : ConnectionCause) (target : ConnectionSettings) : Run Unit := do
  Run.complain "Error: Could not connect to database."
  Run.complain ("       " ++ cause.message)
  match connectionHint cause.message target.host target.port with
  | some hint => Run.complain ("\nHint: " ++ hint)
  | none => return

/-! ## Connections -/

/-- How the command line says to reach the server. -/
def GeneralOptions.connection (o : GeneralOptions) : ConnectionSettings :=
  { host := o.host
    port := o.port
    user := o.user
    database := o.database }

/-- How a utility uses its connection. -/
structure Access where
  utility : Utility
  /-- How to reach the server. -/
  target : ConnectionSettings
  /-- Whether the utility only reads. -/
  readOnly : Bool := true
  /-- Whether changes of the terminal matter. -/
  watchResize : Bool := false

/-- What to ask the driver for. -/
def Access.dial (a : Access) : Dial :=
  { host := a.target.host
    port := a.target.port
    database := a.target.database
    user := a.target.user
    applicationName := .text a.utility.program
    readOnly := a.readOnly }

/-- Opens the connection; without one, the user is told why and the program ends. -/
def Access.connect (a : Access) : Run Unit :=
  Run.rescue (Run.connect a.dial) fun
    | .connection cause => do
      Run.reportConnection cause a.target
      Run.fail (.exit (Failure.connection cause).exitStatus)
    | failure => Run.fail failure

/-- Works over a connection. -/
def Access.use (a : Access) (work : Run Unit) : Run Unit :=
  Run.withHandlers (.forRun a.watchResize) do
    a.connect
    Run.thenAlways work Run.hangUp

end PgVitals
