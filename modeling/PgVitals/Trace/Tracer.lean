import PgVitals.Trace.Helper
import PgVitals.Trace.Histogram
import PgVitals.Value.Fixed
/-!
# Traces

A trace watches one server process. Whenever the process runs a query, the helper samples its wait
events until the query ends, and a histogram of them is printed. No query is looked for, and so no
helper is started, once the user wants the run to end.

* `Target` is what to trace, and its statements are `Target.activityQuery`, `Target.workersQuery`
  and `Target.helperQuery`; `durationQuery` asks how long a query and its trace took.
* `poll` looks for a query, `gather` lets the helper trace it, and `report` prints what was found
  out. `trace` is these two, one after the other.
* `watch` takes turns until something ends the run, and `start` is a whole trace: the release is
  asked for, and the helper is installed around the turns.

The flag of the user's wish is looked at once a turn, in front of the poll. The helper returns when
the query of the target ends; how long that takes is up to the target, and is no part of a run.
-/

namespace PgVitals.Trace

open PgVitals.Number

/-- What to trace. -/
structure Target where
  pid : Int
  /-- The seconds between two samples. -/
  interval : Value
  /-- Whether the leader of the process and the workers it leads belong to it. -/
  workers : Bool

/-- A query that the target runs. -/
structure Query where
  text : Value
  started : Value
  /-- When the trace of it started. -/
  seen : Value

namespace Target

/-! ## Statements -/

/-- Asks what the target does. -/
def activityQuery (t : Target) : Statement :=
  ⟨"SELECT state, query, query_start, now() FROM pg_stat_activity " ++
      "WHERE backend_type = 'client backend' AND pid = %(pid)s",
    .named [("pid", .int t.pid)]⟩

/-- Asks how many processes belong to the target. -/
def workersQuery (t : Target) : Statement :=
  ⟨"SELECT count(*) FROM pg_stat_activity WHERE pid = %(pid)s OR leader_pid = %(pid)s",
    .named [("pid", .int t.pid)]⟩

/-- Calls the helper, which returns when the query of the target ends. -/
def helperQuery (t : Target) : Statement :=
  ⟨"SELECT * FROM " ++ functionName ++ "(%(pid)s, %(interval)s::numeric)",
    .named [("pid", .int t.pid), ("interval", t.interval)]⟩

end Target

/-- Asks how long a query and its trace took. -/
def durationQuery (q : Query) : Statement :=
  ⟨"SELECT (now() - %(query_start)s::timestamptz)::text, " ++
      "(now() - %(trace_start)s::timestamptz)::text",
    .named [("query_start", q.started), ("trace_start", q.seen)]⟩

/-- The SQLSTATE with which the helper refuses a process that is not active. -/
def refusal : String := "P0001"

/-! ## Steps -/

/-- The query in a row of activity, if the process is active. -/
def queryOfRow : List Value → Except Fault (Option Query)
  | [state, text, started, now] =>
    .ok (if state.same (.text "active") then some ⟨text, started, now⟩ else none)
  | row => .error (if row.length < 4 then .tooFewItems 4 row.length else .tooManyItems 4)

/-- The query the target runs, if there is one. -/
def poll (t : Target) : Run (Option Query) := do
  match ← Run.rows t.activityQuery with
  | [] =>
    Run.printLine ("\nNo more session with PID " ++ intText t.pid ++ ", exiting...")
    Run.fail (.targetGone (some t.pid))
  | [row] =>
    let query ← Run.ofFault (queryOfRow row)
    if let some q := query then Run.printValue "\nNew query: " q.text
    return query
  | _ => return none

/-- What the server has seen of a query: the number of processes, where it was asked for, and the
rows of the helper. -/
structure Findings where
  processes : Value
  rows : List (List Value)

/-- Lets the helper trace the target. There are no findings when the query has ended before. -/
def gather (t : Target) : Run (Option Findings) := do
  let processes ←
    if t.workers then Run.firstCell (← Run.rows t.workersQuery) else pure .null
  Run.rescue ((fun rows => some ⟨processes, rows⟩) <$> Run.rows t.helperQuery) fun failure =>
    match failure with
    | .query message _ (some code) =>
      if code = refusal then do
        Run.log .debug ("helper refused PID " ++ intText t.pid ++ ": " ++ message)
        return none
      else Run.fail failure
    | failure => Run.fail failure

/-- The two durations in the answer of the server. -/
def durations : List (List Value) → Except Fault (Value × Value)
  | [] => .error .missingItem
  | [query, trace] :: _ => .ok (query, trace)
  | row :: _ => .error (if row.length < 2 then .tooFewItems 2 row.length else .tooManyItems 2)

/-- Prints what was found out about a query. -/
def report (q : Query) (f : Findings) : Run Histogram := do
  let (query, trace) ← Run.ofFault (durations (← Run.rows (durationQuery q)))
  Run.printValue "Query duration: " query
  Run.printValue "Trace duration: " trace
  if !f.processes.same .null then
    Run.printValue "Number of processes: " f.processes
  let histogram ← Run.ofFault (Histogram.ofRows f.rows)
  Run.printLine (← Run.ofFault histogram.render)
  return histogram

/-- Traces a query to its end. -/
def trace (t : Target) (q : Query) : Run (Option Histogram) := do
  match ← gather t with
  | none => return none
  | some findings => return some (← report q findings)

/-! ## Runs -/

/-- The seconds between two looks at the target. -/
def pollInterval : Float := 0.1

/-- Looks for queries and traces them until something ends the run. -/
def watch (t : Target) : Nat → Run Unit
  | 0 => throw .unfinished
  | fuel + 1 => do
    if ← Run.shutdownWanted then Run.fail (.interrupted .signal)
    if let some q ← poll t then
      let _ ← trace t q
    Run.sleep (.float pollInterval)
    watch t fuel

/-- Announces the trace and watches the target. -/
def run (t : Target) : Run Unit := do
  let scope := if t.workers then "including leader and workers" else "PID only"
  Run.printLine ("Tracing wait events for PID " ++ intText t.pid ++ ", sampling at " ++
    (← Run.ofFault (t.interval.fixedText 3)) ++ "s, " ++ scope)
  watch t (← read).patience

/-- Refuses servers that cannot run the helper. -/
def checkRelease (workers : Bool) (release : Release) : Except Failure Unit :=
  if !release.atLeast ⟨10, 0⟩ then .error (.releaseTooLow "the wait-event tracer" ⟨10, 0⟩)
  else if workers && !release.atLeast ⟨13, 0⟩ then
    .error (.releaseTooLow "including leader and workers' wait events" ⟨13, 0⟩)
  else .ok ()

/-- Installs the helper and traces the target. -/
def start (t : Target) : Run Unit := do
  Run.ofExcept (checkRelease t.workers (← Run.fetchRelease))
  withHelper t.workers (run t)

end PgVitals.Trace
