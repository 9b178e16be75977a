import PgVitals.Sorting
import PgVitals.Table.Ruled
/-!
# Histograms of wait events

How often a process was seen waiting for each event while one query ran. There is one entry for each
event and type of event. Entries are shown by falling counts, and entries of one count by their
events and types.

* `WaitCount.ofRow` is the entry of a row, and `Histogram.insert` puts it into a histogram. An entry
  of the same event keeps its place and takes the new numbers.
* `Histogram.ofRows` does so for all rows.
* `Histogram.ordered` are the entries in the order they are shown, and `Histogram.render` the table
  of them.

Events and types are values, as the server sends them. Those that cannot be compared make `ordered`
a fault, but only where their counts are equal, as others are never compared by their events.
-/

namespace PgVitals.Trace

/-- An event, and how often and in how many percent of all cases it was seen. -/
structure WaitCount where
  event : Value
  eventType : Value
  occurrences : Int
  percent : Float
deriving Inhabited

/-- The entries of a histogram, in the order their events first came. -/
abbrev Histogram := List WaitCount

namespace WaitCount

/-- Whether two entries are of the same event and type. -/
def sameEvent (a b : WaitCount) : Bool := a.event.same b.event && a.eventType.same b.eventType

/-- The entry of a row: event, type, occurrences and percentage. -/
def ofRow : List Value → Except Fault WaitCount
  | [event, eventType, occurrences, percent] => do
    let count ← occurrences.toInt
    if event.isKey && eventType.isKey then
      let percent ← if percent.truthy then percent.toFloat else .ok 0.0
      return ⟨event, eventType, count, percent⟩
    else throw .wrongKind
  | row => throw (if row.length < 4 then .tooFewItems 4 row.length else .tooManyItems 4)

/-- Whether the event of one entry stands before that of another, where they can be ordered. -/
def eventBefore (a b : WaitCount) : Except Fault Bool :=
  if a.event.same b.event then
    if a.eventType.same b.eventType then .ok false else a.eventType.before b.eventType
  else a.event.before b.event

/-- Whether an entry stands before another. -/
def before (a b : WaitCount) : Except Fault Bool :=
  if a.occurrences = b.occurrences then a.eventBefore b
  else .ok (decide (b.occurrences < a.occurrences))

/-- An entry as a row of a table. -/
def row (w : WaitCount) : List Value :=
  [w.event, w.eventType, .int w.occurrences, .float w.percent]

end WaitCount

namespace Histogram

/-- Puts an entry into a histogram. An entry of the same event keeps its place and its event, and
takes the new numbers. -/
def insert (new : WaitCount) : Histogram → Histogram
  | [] => [new]
  | old :: rest =>
    if old.sameEvent new then
      { old with occurrences := new.occurrences, percent := new.percent } :: rest
    else old :: insert new rest

/-- The histogram of rows. -/
def ofRows (rows : List (List Value)) : Except Fault Histogram := do
  return (← rows.mapM WaitCount.ofRow).foldl (fun h w => insert w h) []

/-- The number of all occurrences. -/
def total (h : Histogram) : Int := h.foldr (fun w n => w.occurrences + n) 0

/-- The entries in the order they are shown. Events of one count have to be comparable. -/
def ordered (h : Histogram) : Except Fault (List WaitCount) := sortBy WaitCount.before h

/-- The titles over the entries. -/
def titles : List String := ["Wait event", "WE type", "Occurrences", "Percent"]

/-- The table of a histogram. -/
def render (h : Histogram) : Except Fault String := do
  Table.render Table.boxed titles ((← ordered h).map WaitCount.row)

end Histogram

end PgVitals.Trace
