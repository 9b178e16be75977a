import PgVitals.Failure
import PgVitals.Statement
import PgVitals.Session.Signal
/-!
# Events of a session

Whatever a session does to the world, or the world to the session, is an event. The events so far
tell everything about a run that can be seen from outside: the statements it sent, the text it
printed, the pauses it made.

* `Reply` is what a server makes of a statement, with the signals that arrive while it is under way
  and whether the connection is gone afterwards.
* `Event` lists what can happen. Some events are there to be talked about, and nobody outside sees
  them: that a flag was read, that the terminal was measured, that a source was asked.
* `Event.statement?`, `Event.output?`, `Event.nap?` and `Event.record?` read off what an event is
  about.

A statement and its answer are one event. Whoever needs the time in between, in which the connection
is asked again and again how the statement stands, finds it in `Session/Wait`.
-/

namespace PgVitals

/-- What a server makes of a statement. -/
inductive Outcome where
  /-- Done, without a result set. -/
  | done
  | result (set : ResultSet)
  | refused (error : DriverError)
deriving Inhabited

/-- The answer to a statement, and what happens while it is under way. -/
structure Reply where
  /-- Signals that arrive while the statement is under way. -/
  signals : List Signal := []
  /-- Whether the connection is gone afterwards. -/
  closes : Bool := false
  outcome : Outcome := .result .empty
deriving Inhabited

/-- The weight of a log record. -/
inductive LogLevel where
  | debug | info | warning
deriving DecidableEq

/-- Whether a record weighs as much as another, or more. -/
def LogLevel.atLeast : LogLevel → LogLevel → Bool
  | _, debug => true
  | debug, _ => false
  | _, info => true
  | info, warning => false
  | warning, warning => true

/-- The name of a level. -/
def LogLevel.name : LogLevel → String
  | debug => "DEBUG"
  | info => "INFO"
  | warning => "WARNING"

/-- Something that happened. -/
inductive Event where
  /-- A statement was sent and answered. -/
  | asked (statement : Statement) (reply : Reply)
  | arrived (signal : Signal)
  /-- The program looked whether it should end. -/
  | looked
  /-- The flag of a signal was read, and cleared. -/
  | consumed (signal : Signal) (pending : Bool)
  /-- The height of the terminal was read. -/
  | measured (rows : Int)
  /-- A source of lines was asked for a header (`false`) or a sample (`true`). -/
  | called (sample : Bool)
  /-- Text on standard output. -/
  | printed (text : String)
  /-- Text on standard error. -/
  | complained (text : String)
  | logged (level : LogLevel) (text : String)
  /-- From now on log records of this weight show on standard error, under the name of a program. -/
  | logShown (program : String) (least : LogLevel)
  | slept (seconds : Value)
  /-- A connection was asked for, with these settings. -/
  | dialled (settings : List (String × Value))
  /-- The session was made read-only and autocommitting, or only autocommitting. -/
  | configured (readOnly : Bool)
  /-- The program closed the connection. -/
  | hungUp
  | handlersSet (handlers : Handlers)
deriving Inhabited

namespace Event

/-- The statement of an event. -/
def statement? : Event → Option Statement
  | asked statement _ => some statement
  | _ => none

/-- The output of an event. -/
def output? : Event → Option String
  | printed text => some text
  | _ => none

/-- The pause of an event. -/
def nap? : Event → Option Value
  | slept seconds => some seconds
  | _ => none

/-- The weight from which on log records show after an event that says so. -/
def leastShown? : Event → Option LogLevel
  | logShown _ least => some least
  | _ => none

/-- The log record of an event. -/
def record? : Event → Option (LogLevel × String)
  | logged level text => some (level, text)
  | _ => none

end Event

end PgVitals
