import PgVitals.Session.Event
import PgVitals.Files.Tree
/-!
# Runs

A run is a computation over a session. The session holds the flags, the state of the connection, the
files and the events so far; the surroundings decide how the server answers and when signals arrive,
both as functions of what happened before. A run ends with a value, with a failure, or, where a loop
was cut short, unfinished.

* `Session` is what a run works on, and `Surroundings` what it meets and cannot change.
* `Run` is the type of runs, and `Run.perform` the outcome of one with the session after it.
* `Run.note` is the only way in which events come about besides statements; `Session.after` lets the
  signals arrive that are due right after it.
* `Run.rescue`, `Run.attempt`, `Run.thenAlways` and `Run.withHandlers` are the ways of building a
  run that look at how a part of it ended.

The server is a function of the past, so an answer may depend on everything that was sent before,
and on the signals that have arrived. What is left out: time does not pass but in pauses, which are
recorded and not waited for; a handler of signals does nothing but set a flag; and the text that the
handler of log records puts on standard error when it passes over a record that it cannot write is
not kept.
-/

namespace PgVitals

/-- The state of the connection. -/
inductive Link where
  /-- Usable, as far as the program knows. -/
  | up
  /-- Closed by the program. -/
  | closed
  /-- Lost while a statement was under way. -/
  | lost
deriving DecidableEq, Inhabited

/-- What a run has on the server and has to remove in the end. -/
structure Holdings where
  /-- Whether helper objects of a trace are there, or may be. -/
  helper : Bool := false
  /-- Whether the run has created the schema of the report. -/
  schema : Bool := false
  /-- The extensions the report can read from. -/
  extensions : List String := []
deriving DecidableEq

/-- What a run works on. The events are listed newest first. -/
structure Session where
  flags : Flags := {}
  handlers : Handlers := .all
  link : Link := .up
  holdings : Holdings := {}
  files : Files.Tree := {}
  past : List Event := []

/-- What a run meets. -/
structure Surroundings where
  /-- The server's answer to a statement, after the events so far. -/
  reply : List Event → Statement → Reply
  /-- The signals that arrive right after the newest event. -/
  arrivals : List Event → List Signal := fun _ => []
  /-- Environment variables. -/
  environment : String → Option String := fun _ => none
  /-- Why a connection is refused. -/
  refusal : Option String := none
  /-- Why a new session cannot be made read-only. -/
  configurationError : Option String := none
  /-- Why writing to an open file fails. -/
  writeRefusal : Option String := none
  /-- Whether log records go to a handler that fails over a record it cannot write. The handlers of
  the logging library pass over it. -/
  logRaises : Bool := true
  /-- Whether standard output is a terminal. -/
  terminal : Bool := false
  /-- How many turns a loop may take before the run is cut short. -/
  patience : Nat := 1000000000000

/-- Why a run stops without a value. -/
inductive Stop where
  | failed (failure : Failure)
  /-- The run was cut short. -/
  | unfinished
deriving DecidableEq

/-- A computation over a session. -/
abbrev Run (α : Type) := ReaderT Surroundings (ExceptT Stop (StateM Session)) α

namespace Session

/-- A signal arrives; the flags change if it has a handler. -/
def receive (s : Session) (signal : Signal) : Session :=
  { s with flags := s.handlers.deliver s.flags signal, past := .arrived signal :: s.past }

/-- Signals arrive one after the other. -/
def receiveAll (s : Session) (signals : List Signal) : Session := signals.foldl receive s

/-- Something happens, and the signals due right after it arrive. -/
def after (w : Surroundings) (event : Event) (s : Session) : Session :=
  let noted := { s with past := event :: s.past }
  noted.receiveAll (w.arrivals noted.past)

/-! ## What can be seen of a session -/

/-- The statements sent, oldest first. -/
def executed (s : Session) : List Statement := (s.past.filterMap Event.statement?).reverse

/-- The text printed. -/
def output (s : Session) : String := String.join (s.past.filterMap Event.output?).reverse

/-- The pauses, oldest first. -/
def naps (s : Session) : List Value := (s.past.filterMap Event.nap?).reverse

/-- The log records, oldest first. -/
def log (s : Session) : List (LogLevel × String) := (s.past.filterMap Event.record?).reverse

/-- The text on standard error after some events, oldest first; `shown` says under which name and
from which weight on log records show. -/
def errorOutputOf : Option (String × LogLevel) → List Event → String
  | _, [] => ""
  | shown, .complained text :: rest => text ++ errorOutputOf shown rest
  | _, .logShown program least :: rest => errorOutputOf (some (program, least)) rest
  | some (program, least), .logged level text :: rest =>
    (if level.atLeast least then program ++ ": " ++ text ++ "\n" else "") ++
      errorOutputOf (some (program, least)) rest
  | shown, _ :: rest => errorOutputOf shown rest

/-- The text on standard error: what the program complains about, and the log records that show. -/
def errorOutput (s : Session) : String := errorOutputOf none s.past.reverse

end Session

namespace Run

/-- The outcome of a run, and the session after it. -/
def perform {α : Type} (r : Run α) (w : Surroundings) (s : Session) : Except Stop α × Session :=
  StateT.run (ExceptT.run (ReaderT.run r w)) s

/-- Fails. -/
def fail {α : Type} (failure : Failure) : Run α := throw (.failed failure)

/-- Takes over a value or a failure. -/
def ofExcept {α : Type} : Except Failure α → Run α
  | .ok a => pure a
  | .error failure => fail failure

/-- Takes over a value or a fault. -/
def ofFault {α : Type} : Except Fault α → Run α
  | .ok a => pure a
  | .error fault => fail (.fault fault)

/-- Does `r`, and on a failure goes on with `handle`. A run cut short stays cut short. -/
def rescue {α : Type} (r : Run α) (handle : Failure → Run α) : Run α :=
  tryCatch r fun
    | .failed failure => handle failure
    | .unfinished => throw .unfinished

/-- Does `r`, and tells how it went. -/
def attempt {α : Type} (r : Run α) : Run (Except Failure α) :=
  rescue (Except.ok <$> r) fun failure => pure (.error failure)

/-- Does `r`, then `last` on every path; a failure of `last` takes the place of what `r` ended
with. -/
def thenAlways {α : Type} (r : Run α) (last : Run Unit) : Run α := do
  let a ← rescue r fun failure => do
    last
    fail failure
  last
  return a

/-- Records an event. -/
def note (event : Event) : Run Unit := do
  let w ← read
  modify fun s => s.after w event

/-- Sets the handlers of signals. -/
def setHandlers (handlers : Handlers) : Run Unit := do
  modify fun s => { s with handlers := handlers }
  note (.handlersSet handlers)

/-- Does `r` under some handlers of signals, and then restores those before. -/
def withHandlers {α : Type} (handlers : Handlers) (r : Run α) : Run α := do
  let before := (← get).handlers
  setHandlers handlers
  thenAlways r (setHandlers before)

/-- Changes what the run has on the server. -/
def hold (change : Holdings → Holdings) : Run Unit :=
  modify fun s => { s with holdings := change s.holdings }

/-- Whether the user wants the run to end. -/
def shutdownWanted : Run Bool := do
  note .looked
  return (← get).flags.shutdown

/-- Prints a line. -/
def printLine (text : String) : Run Unit := note (.printed (text ++ "\n"))

/-- Prints a line that ends in a value. -/
def printValue (label : String) (v : Value) : Run Unit := do
  printLine (label ++ (← ofFault v.written))

/-- Writes a line to standard error. -/
def complain (text : String) : Run Unit := note (.complained (text ++ "\n"))

/-- Logs a message. -/
def log (level : LogLevel) (text : String) : Run Unit := note (.logged level text)

/-- Whether log records of a weight are looked at: all of them, until it is said which ones show. -/
def isLogged (level : LogLevel) : Run Bool := do
  match (← get).past.findSome? Event.leastShown? with
  | some least => return level.atLeast least
  | none => return true

/-- Logs a message that may not be possible to write; it is written only where it is looked at. What
becomes of it where that is not possible is up to the handler of log records. -/
def logWritten (level : LogLevel) (text : Except Fault String) : Run Unit := do
  if ← isLogged level then
    match text with
    | .ok text => log level text
    | .error fault => if (← read).logRaises then fail (.fault fault)

/-- Pauses. The seconds are recorded as they were given. -/
def sleep (seconds : Value) : Run Unit := note (.slept seconds)

end Run

end PgVitals
