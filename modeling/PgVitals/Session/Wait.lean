import PgVitals.Failure
import PgVitals.Session.Signal
/-!
# Waiting for a statement

While a statement is under way the program asks the connection again and again how it stands, and
waits in between. When the user wants the run to end meanwhile, the statement is cancelled, once. A
statement that was started when the wish to end was known already is left alone: such statements
clean up.

* `Poll` is an answer of the connection, with the signals that arrive while it is asked.
* `wait` goes through the answers, and `start` is a whole wait, which may cancel exactly when the
  wish to end is not known yet.
* `Course` is what was done, how the wait ended and the flags afterwards. `Ending.pending` stands
  for answers that ran out.

Cancelling is a request of its own, which the server may come too late to. What it does to the
answers behind it is not said here, as the answers are given.
-/

namespace PgVitals.Wait

open PgVitals.Number

/-- How a statement stands. -/
inductive Standing where
  | finished
  | wantsRead
  | wantsWrite
  /-- A state without meaning. -/
  | unknown (state : Int)
deriving DecidableEq

/-- An answer of the connection, and the signals that arrive while it is asked. -/
structure Poll where
  standing : Standing
  signals : List Signal := []

/-- What is done while waiting. -/
inductive Action where
  | polled
  | cancelled
  | waitedForRead
  | waitedForWrite
deriving DecidableEq

/-- How waiting ends. -/
inductive Ending where
  | finished
  | refused (error : DriverError)
  /-- The answers ran out. -/
  | pending
deriving DecidableEq

/-- What was done while waiting for one statement, how it ended, and the flags afterwards. -/
structure Course where
  actions : List Action
  ending : Ending
  flags : Flags
deriving DecidableEq

/-- Puts an action in front. -/
def Course.after (course : Course) (actions : List Action) : Course :=
  { course with actions := actions ++ course.actions }

/-- The error of a state without meaning. -/
def unknownState (state : Int) : DriverError :=
  ⟨.operational, "bad state from poll: " ++ intText state, none, none⟩

/-- Waits through the answers of the connection. Cancelling is possible as long as `mayCancel`. -/
def wait (mayCancel : Bool) (flags : Flags) : List Poll → Course
  | [] => ⟨[], .pending, flags⟩
  | poll :: polls =>
    let flags := poll.signals.foldl Flags.note flags
    if poll.standing = .finished then ⟨[.polled], .finished, flags⟩
    else
      let cancels := mayCancel && flags.shutdown
      let done := if cancels then [.polled, .cancelled] else [.polled]
      match poll.standing with
      | .wantsRead => (wait (mayCancel && !cancels) flags polls).after (done ++ [.waitedForRead])
      | .wantsWrite => (wait (mayCancel && !cancels) flags polls).after (done ++ [.waitedForWrite])
      | .unknown state => ⟨done, .refused (unknownState state), flags⟩
      | .finished => ⟨done, .finished, flags⟩

/-- Waits for a statement that starts with some flags. -/
def start (flags : Flags) (polls : List Poll) : Course := wait (!flags.shutdown) flags polls

end PgVitals.Wait
