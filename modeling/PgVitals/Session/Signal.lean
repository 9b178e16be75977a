/-!
# Signals

The long-running commands listen to three signals. A handler does no more than set a flag; the
command looks at the flags between its steps.

* `Flags` is what handlers have noted and nobody has acted on yet. `Flags.shutdown_without` says
  that the wish to end is never taken back.
* `Handlers` are the signals that have a handler, and `Handlers.deliver` what a signal does to the
  flags. `Handlers.forRun` are those of a run: changes of the terminal matter only where it is
  watched.

A signal without a handler changes nothing here. What it would do to the program is left out, as the
utilities have their handlers in place while they work.
-/

namespace PgVitals

/-- A signal the program listens to. -/
inductive Signal where
  /-- The user wants the run to end. -/
  | interrupt
  /-- The program was stopped and goes on. -/
  | resume
  /-- The terminal changed its size. -/
  | resize
deriving DecidableEq

/-- What handlers have noted and nobody has acted on yet. -/
structure Flags where
  shutdown : Bool := false
  needHeader : Bool := false
  resized : Bool := false
deriving DecidableEq

/-- Notes a signal. -/
def Flags.note (flags : Flags) : Signal → Flags
  | .interrupt => { flags with shutdown := true }
  | .resume => { flags with needHeader := true }
  | .resize => { flags with resized := true }

/-- Whether a signal is noted. -/
def Flags.has (flags : Flags) : Signal → Bool
  | .interrupt => flags.shutdown
  | .resume => flags.needHeader
  | .resize => flags.resized

/-- The flags once a signal was acted on. The wish to end is never taken back. -/
def Flags.without (flags : Flags) : Signal → Flags
  | .interrupt => flags
  | .resume => { flags with needHeader := false }
  | .resize => { flags with resized := false }

@[simp]
theorem Flags.shutdown_without (flags : Flags) (signal : Signal) :
    (flags.without signal).shutdown = flags.shutdown := by
  cases signal <;> rfl

/-- The signals that have a handler. -/
structure Handlers where
  interrupt : Bool
  resume : Bool
  resize : Bool
deriving DecidableEq

namespace Handlers

/-- No handler. -/
def none : Handlers := ⟨false, false, false⟩

/-- A handler for every signal. -/
def all : Handlers := ⟨true, true, true⟩

/-- The handlers of a run; changes of the terminal matter only where it is watched. -/
def forRun (watchResize : Bool) : Handlers := ⟨true, true, watchResize⟩

/-- Whether a signal has a handler. -/
def handles (h : Handlers) : Signal → Bool
  | .interrupt => h.interrupt
  | .resume => h.resume
  | .resize => h.resize

/-- What a signal does to the flags. -/
def deliver (h : Handlers) (flags : Flags) (signal : Signal) : Flags :=
  if h.handles signal then flags.note signal else flags

end Handlers

end PgVitals
