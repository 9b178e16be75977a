import PgVitals.Session.Query
/-!
# The helper of a trace

A trace needs a function on the server that samples the wait events of a process, and a table for
what it has seen. The function is in a schema of its own. Whatever happens while the helper is
installed, it is dropped at the end, and dropping it never hides the failure that ended the trace.

* `createSchema`, `createTable`, `createFunction`, `dropSchema` and `dropTable` are the statements,
  with the texts they are sent with.
* `install` sends the first three. From its first statement on there may be something to drop, and
  the session says so.
* `drop` sends the last two, and `dropAfterFailure` does so while a failure is under way: it warns
  where it cannot.
* `withHelper` does something while the helper is installed, and drops it on the way out. Both parts
  are guarded, since a helper that could not be built may be there in part.

The name of the schema is the same for all traces. What follows where two of them are on one
database is in `Proofs/Trace/Sharing`. The body of the function runs on the server, and is a text
here.
-/

namespace PgVitals.Trace

open PgVitals.Text

/-! ## Statements -/

/-- The schema of the helper. -/
def schema : String := "pgwaitevent"

/-- The function that traces a process. -/
def functionName : String := schema ++ ".trace_wait_events_for_pid"

/-- Creates the schema, unless there is one. -/
def createSchema : String := "CREATE SCHEMA IF NOT EXISTS " ++ schema

/-- Creates the table of what was seen. -/
def createTable : String :=
  "CREATE TEMPORARY TABLE IF NOT EXISTS waitevents (we text, wet text, o integer, UNIQUE (we, wet))"

/-- Drops the schema and the function in it. -/
def dropSchema : String := "DROP SCHEMA IF EXISTS " ++ schema ++ " CASCADE"

/-- Drops the table. -/
def dropTable : String := "DROP TABLE IF EXISTS pg_temp.waitevents"

/-- Which processes belong to the trace: the process alone, or also the workers it leads. -/
def processes (workers : Bool) : String :=
  if workers then "psa.pid = p OR psa.leader_pid = p" else "psa.pid = p"

/-- Creates the function. It refuses a process that is not active, and samples until its query
ends. -/
def createFunction (workers : Bool) : String :=
  String.intercalate "\n" [
    "CREATE OR REPLACE FUNCTION " ++ functionName ++ "(p integer, s numeric DEFAULT 1)",
    "RETURNS TABLE (wait_event text, wait_event_type text, occurrences integer, " ++
      "percent numeric(5,2))",
    "LANGUAGE plpgsql",
    "AS $$",
    "DECLARE",
    "    q text;",
    "    current_event text;",
    "BEGIN",
    "    SELECT psa.query INTO q FROM pg_stat_activity psa",
    "    WHERE psa.pid = p AND psa.backend_type = 'client backend' AND psa.state = 'active';",
    "",
    "    IF NOT FOUND THEN",
    "        RAISE EXCEPTION 'PID % doesn''t appear to be an active backend', p",
    "            USING HINT = 'Check the PID and its state';",
    "    END IF;",
    "",
    "    RAISE LOG 'Tracing PID %, sampling at %s', p, s;",
    "    RAISE LOG 'Query is <%>', q;",
    "",
    "    TRUNCATE pg_temp.waitevents;",
    "",
    "    LOOP",
    "        SELECT psa.wait_event INTO current_event FROM pg_stat_activity psa",
    "        WHERE psa.pid = p AND psa.state = 'active';",
    "",
    "        EXIT WHEN NOT FOUND OR current_event IS NOT DISTINCT FROM 'ClientRead';",
    "",
    "        INSERT INTO pg_temp.waitevents (we, wet, o)",
    "            SELECT coalesce(psa.wait_event, '[Running]'), " ++
      "coalesce(psa.wait_event_type, ''), count(*)",
    "            FROM pg_stat_activity psa",
    "            WHERE " ++ processes workers,
    "            GROUP BY 1, 2",
    "        ON CONFLICT (we, wet) DO UPDATE SET o = waitevents.o + excluded.o;",
    "",
    "        PERFORM pg_sleep(s);",
    "    END LOOP;",
    "",
    "    RETURN QUERY",
    "        SELECT w.we, w.wet, w.o, (w.o * 100. / sum(w.o) OVER ())::numeric(5,2)",
    "        FROM pg_temp.waitevents w",
    "        ORDER BY w.o DESC, w.we;",
    "END",
    "$$"]

/-! ## Installing and dropping -/

/-- Installs the helper. From the first statement on there may be something to drop. -/
def install (workers : Bool) : Run Unit := do
  Run.hold fun h => { h with helper := true }
  Run.execute createTable
  Run.log .info "Temporary table created"
  Run.execute createSchema
  Run.execute (createFunction workers)
  Run.log .info "Function created"

/-- Drops the helper. -/
def drop : Run Unit := do
  Run.execute dropSchema
  Run.execute dropTable
  Run.hold fun h => { h with helper := false }
  Run.log .info "Function dropped"

/-- Drops the helper while a failure is under way, as far as that is possible. -/
def dropAfterFailure : Run Unit := do
  let s ← get
  if s.holdings.helper then
    if s.link ≠ .up then
      Run.log .warning ("connection lost, schema " ++ schema ++ " could not be dropped")
    else
      Run.rescue drop fun failure =>
        if failure.isReported then
          Run.log .warning ("could not drop schema " ++ schema ++ ": " ++ failure.message)
        else Run.fail failure

/-- Does `r`, and on a failure drops the helper and fails the same way. -/
def guarded {α : Type} (r : Run α) : Run α :=
  Run.rescue r fun failure => do
    dropAfterFailure
    Run.fail failure

/-- Does `body` while the helper is installed. -/
def withHelper {α : Type} (workers : Bool) (body : Run α) : Run α := do
  guarded (install workers)
  let a ← guarded body
  drop
  return a

end PgVitals.Trace
