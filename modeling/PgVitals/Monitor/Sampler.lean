import PgVitals.Session.Run
import PgVitals.Number.Fixed
import PgVitals.Number.Reading
/-!
# The sampler

A sampler prints a header, then samples in even intervals, and the header again and again: after a
page of samples, after the program was stopped and went on, and after the terminal changed its size.
Pauses are cut into slices, so that the wish to end is noticed soon. Flags are acted on between two
samples only.

* `Source` is where the lines come from, and `Pace` how to sample. The sampler knows nothing else
  about what is sampled.
* `Sampler` is its state: the phase, the page, the countdown to the next header, and the samples
  that are left.
* `Sampler.step` is one step: it acts on the flags, asks for a header or a sample, or pauses.
  `Sampler.pause` is cut into slices of at most `Sampler.slice` seconds.
* `Sampler.drive` takes steps until there is nothing left to do, and `Sampler.run` is a whole run,
  which is interrupted where the user wanted the end before that.

How long a slice takes is not measured: what is left of a pause is computed from what was asked for,
with the doubles that this is computed with. A run that takes more steps than the patience of its
surroundings allows is cut short.
-/

namespace PgVitals.Monitor

open PgVitals.Number

/-- Where the lines come from. A source may change with each sample. -/
structure Source (σ : Type) where
  header : σ → Run (List String)
  sample : σ → Run (σ × List String)

/-- How to sample. -/
structure Pace where
  /-- The seconds between two samples. -/
  interval : Value
  /-- The number of samples, unless they go on until the user ends the run. -/
  count : Option Int
  /-- Whether the header is printed more than once. -/
  repeatHeader : Bool

/-- What a sampler does next. -/
inductive Phase where
  | begin | header | sample | sleep | done
deriving DecidableEq, Inhabited

/-- The name of a phase. -/
def Phase.name : Phase → String
  | begin => "init"
  | header => "header"
  | sample => "sample"
  | sleep => "sleep"
  | done => "done"

/-- The state of a sampler. -/
structure Sampler where
  phase : Phase
  /-- The number of samples between two headers. -/
  page : Int
  /-- The samples until the next header, where headers repeat. -/
  countdown : Option Int
  /-- The samples until the end, where their number is limited. -/
  remaining : Option Int
deriving DecidableEq, Inhabited

namespace Sampler

/-- The least number of samples between two headers. -/
def leastPage : Int := 20

/-- A sampler before its first header. -/
def start (pace : Pace) : Sampler := ⟨.begin, leastPage, some 1, pace.count⟩

/-- The number of samples that fit on a terminal of so many lines. -/
def pageOf (rows : Int) : Int := max (rows - 3) leastPage

/-- Lets the next sample have a header in front of it, where headers repeat. -/
def hurry (s : Sampler) : Sampler := { s with countdown := s.countdown.map fun _ => 1 }

/-- Reads the flag of a signal, and clears it. -/
def take (signal : Signal) : Run Bool := do
  let flags := (← get).flags
  modify fun session => { session with flags := flags.without signal }
  Run.note (.consumed signal (flags.has signal))
  return flags.has signal

/-- Reads the height of the terminal, and lets the next sample have a header in front of it. -/
def remeasure (height : Run Int) (s : Sampler) : Run Sampler := do
  let rows ← height
  Run.note (.measured rows)
  Run.log .debug ("terminal resized, " ++ intText (pageOf rows) ++ " lines between headers")
  return { s with page := pageOf rows }.hurry

/-- Acts on the signals that ask for a header: first on those of the terminal. -/
def consume (height : Run Int) (s : Sampler) : Run Sampler := do
  let s ← if ← take .resize then s.remeasure height else pure s
  return if ← take .resume then s.hurry else s

/-- The longest slice of a pause. -/
def slice : Float := 0.1

/-- Pauses in slices until the time is over or the user wants the run to end. -/
def pauseSlices : Nat → Float → Run Unit
  | 0, _ => throw .unfinished
  | fuel + 1, remaining => do
    if remaining > 0.0 then
      if !(← Run.shutdownWanted) then
        let chunk := if remaining < slice then remaining else slice
        Run.sleep (.float chunk)
        pauseSlices fuel (roundPlaces 6 (remaining - chunk))

/-- What is left of a pause after its first slice. A whole number is turned into a double then,
which is not possible for a decimal. -/
def afterSlice (seconds : Value) : Except Fault Float := do
  match seconds with
  | .decimal _ => throw .wrongKind
  | v => return roundPlaces 6 ((← v.toFloat) - slice)

/-- Pauses for a number of seconds. What is shorter than a slice is one. -/
def pause (seconds : Value) : Run Unit := do
  let patience := (← read).patience
  match seconds with
  | .float x => pauseSlices patience x
  | v =>
    if ← Run.ofFault ((Value.int 0).before v) then
      if !(← Run.shutdownWanted) then
        if ← Run.ofFault (v.before (.float slice)) then Run.sleep v
        else
          Run.sleep (.float slice)
          pauseSlices patience (← Run.ofFault (afterSlice v))

/-- Prints lines. -/
def printLines (lines : List String) : Run Unit := lines.forM Run.printLine

/-- The state after a sample: done when the last one was printed. -/
def afterSample (s : Sampler) : Sampler :=
  match s.remaining with
  | none => { s with phase := .sleep }
  | some n => { s with phase := if n - 1 ≤ 0 then .done else .sleep, remaining := some (n - 1) }

/-- The state after a pause: a header comes first when its time has come. -/
def afterPause (s : Sampler) : Sampler :=
  match s.countdown with
  | none => { s with phase := .sample }
  | some n => { s with phase := if n - 1 ≤ 0 then .header else .sample, countdown := some (n - 1) }

/-- One step. -/
def step {σ : Type} (source : Source σ) (height : Run Int) (pace : Pace) (state : σ) (s : Sampler) :
    Run (σ × Sampler) :=
  match s.phase with
  | .begin => do
    let s ← s.consume height
    return (state, { s with phase := .header })
  | .header => do
    Run.note (.called false)
    printLines (← source.header state)
    return (state, { s with
      phase := .sample
      countdown := if pace.repeatHeader then some s.page else none })
  | .sample => do
    Run.note (.called true)
    let (state, lines) ← source.sample state
    printLines lines
    return (state, s.afterSample)
  | .sleep => do
    pause pace.interval
    return (state, (← s.consume height).afterPause)
  | .done => return (state, s)

/-- The course of a sampler: the states it has gone through, newest first, the state it ended in,
and why it ended unless it was done. -/
structure Course where
  visited : List Sampler
  last : Sampler
  ending : Option Failure

/-- Steps until the sampler is done, fails or has to end. -/
def drive {σ : Type} (source : Source σ) (height : Run Int) (pace : Pace) :
    Nat → σ → Sampler → List Sampler → Run Course
  | 0, _, _, _ => throw .unfinished
  | fuel + 1, state, s, before => do
    let visited := s :: before
    if s.phase = .done then return ⟨visited, s, none⟩
    else if ← Run.shutdownWanted then
      return ⟨visited, { s with phase := .done }, some (.interrupted .signal)⟩
    else
      match ← Run.attempt (step source height pace state s) with
      | .error failure => return ⟨visited, s, some failure⟩
      | .ok (state, next) => drive source height pace fuel state next visited

/-- The course of a sampler from its start. -/
def course {σ : Type} (source : Source σ) (height : Run Int) (pace : Pace) (state : σ) :
    Run Course := do
  drive source height pace (← read).patience state (start pace) []

/-- Samples until the sampler is done, fails or has to end. -/
def run {σ : Type} (source : Source σ) (height : Run Int) (pace : Pace) (state : σ) :
    Run Unit := do
  match (← course source height pace state).ending with
  | none => return
  | some failure => Run.fail failure

end Sampler

end PgVitals.Monitor
