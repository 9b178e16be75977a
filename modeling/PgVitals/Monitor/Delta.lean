import PgVitals.Monitor.Record
/-!
# Differences between samples

Counters only ever grow, so what is shown of them is the difference to the sample before. The first
sample is compared with a record of nothing, and so shows raw values. After the server has reset its
statistics differences may be negative, and are shown as they are.

* `Engine` has the fields of the samples and the last sample shown; `Engine.start` has seen nothing.
* `Engine.diff` is what a record shows after the last one, field by field: counters as differences,
  everything else as read.
* `Engine.advance` emits what a record shows, and then remembers the record. Where emitting fails
  there is no new engine, so the last sample stays the one before.
-/

namespace PgVitals.Monitor

/-- The difference of two readings of a counter. -/
def Reading.minus : Reading → Reading → Reading
  | .whole a, .whole b => .whole (a - b)
  | .fractional a, .fractional b => .fractional (a - b)
  | a, _ => a

/-- The fields of the samples, and the last sample shown. -/
structure Engine where
  kind : RecordKind
  previous : Record
deriving Inhabited

namespace Engine

/-- An engine that has seen nothing. -/
def start (kind : RecordKind) : Engine := ⟨kind, kind.zero⟩

/-- What a reading shows after another. -/
def difference (f : Field) (current previous : Reading) : Reading :=
  if f.kind.isCounter then current.minus previous else current

/-- Counters as differences, everything else as read. -/
def differences : List Field → Record → Record → Record
  | f :: fields, c :: current, p :: previous =>
    difference f c p :: differences fields current previous
  | _, _, _ => []

/-- What a record shows after the last one. -/
def diff (e : Engine) (current : Record) : Record :=
  differences e.kind.fields current e.previous

/-- Emits what a record shows, and then remembers the record. Where emitting fails there is no new
engine, and the last sample stays the one before. -/
def advance {m : Type → Type} {α : Type} [Monad m] (e : Engine) (current : Record)
    (emit : Record → m α) : m (Engine × α) := do
  let shown ← emit (e.diff current)
  return ({ e with previous := current }, shown)

/-- Forgets the last sample. -/
def reset (e : Engine) : Engine := start e.kind

end Engine

end PgVitals.Monitor
