import PgVitals.Catalog.Template
/-!
# Queries of the monitor

One template for each domain the monitor can sample. The columns are, in order, the fields of the
domain's counters; a column the release does not have is selected as a literal zero, so that the
shape of a sample does not depend on the server. Rows are summed, with a filter only the matching
ones. The connection pooler answers commands of its own instead of queries.

* `Monitor.templates` are all of them, and `Monitor.template?` is that of a domain.
* `Monitor.consoleCommand?` is the command for a domain of the connection pooler, and
  `Monitor.isMonitored` whether a domain can be sampled at all.
* `summed` and `summedSince` make most of the columns, `counted` and `waiting` those that count
  rows.

The texts are those that are sent. Whether a server of the release has the views and the columns
that they name is beyond this catalog.
-/

namespace PgVitals.Catalog.Monitor

open Column

/-- Leaves out the views that describe the system itself. -/
def notInformationSchema : Fragment := ⟨"schemaname <> 'information_schema'", .always, none⟩

/-- The sum of a column the server has from a release on. -/
def summedSince (release : Release) (name : String) : Column :=
  .computedSince release name ("sum(" ++ name ++ ")")

/-- The sum of a column. -/
def summed (name : String) : Column := summedSince .always name

/-- The number of rows that satisfy a condition. -/
def counted (name condition : String) : Column :=
  .computed name ("sum(CASE WHEN " ++ condition ++ " THEN 1 ELSE 0 END)")

/-- The number of backends that wait for events of a type. -/
def waiting (release : Release) (name eventType : String) : Column :=
  .computedSince release name
    ("count(*) FILTER (WHERE wait_event_type = '" ++ eventType ++ "')")

/-! ## Templates -/

/-- WAL files archived, and failures to archive them. -/
def archiver : Template where
  domain := .archiver
  name := "archiver"
  columns := [
    .plain "archived_count",
    .plain "failed_count"]
  sources := [⟨"pg_stat_archiver", .always, none⟩]
  since := ⟨9, 4⟩
  missing := some "0"

/-- Checkpoints and buffer writes. Since release 17 the checkpoint counters have a view of their
own. -/
def bgwriter : Template where
  domain := .bgwriter
  name := "bgwriter"
  columns := [
    .variants "checkpoints_timed" [(⟨17, 0⟩, "c.num_timed"), (.always, "b.checkpoints_timed")],
    .variants "checkpoints_req" [(⟨17, 0⟩, "c.num_requested"), (.always, "b.checkpoints_req")],
    .variants "checkpoint_write_time"
      [(⟨17, 0⟩, "c.write_time"),
       (⟨9, 2⟩, "b.checkpoint_write_time")],
    .variants "checkpoint_sync_time"
      [(⟨17, 0⟩, "c.sync_time"),
       (⟨9, 2⟩, "b.checkpoint_sync_time")],
    .variants "buffers_checkpoint"
      [(⟨17, 0⟩, "c.buffers_written"),
       (.always, "b.buffers_checkpoint")],
    .computed "buffers_clean" "b.buffers_clean",
    .between .always ⟨17, 0⟩ "buffers_backend" "b.buffers_backend",
    .computed "buffers_alloc" "b.buffers_alloc",
    .computed "maxwritten_clean" "b.maxwritten_clean",
    .between ⟨9, 1⟩ ⟨17, 0⟩ "buffers_backend_fsync" "b.buffers_backend_fsync"]
  sources := [
    ⟨"pg_stat_bgwriter b, pg_stat_checkpointer c", ⟨17, 0⟩, none⟩,
    ⟨"pg_stat_bgwriter b", .always, none⟩]
  missing := some "0"

/-- Client connections by state. -/
def connection : Template where
  domain := .connection
  name := "connection"
  columns := [
    .computed "total" "count(*)",
    ⟨"active",
      [⟨"sum(CASE WHEN state = 'active' AND wait_event_type IS DISTINCT FROM 'Lock' " ++
         "THEN 1 ELSE 0 END)", ⟨9, 6⟩, none⟩,
       ⟨"sum(CASE WHEN state = 'active' AND NOT waiting THEN 1 ELSE 0 END)", .always, none⟩]⟩,
    ⟨"lockwaiting",
      [⟨"sum(CASE WHEN wait_event_type = 'Lock' THEN 1 ELSE 0 END)", ⟨9, 6⟩, none⟩,
       ⟨"sum(CASE WHEN waiting THEN 1 ELSE 0 END)", .always, none⟩]⟩,
    counted "idleintransaction" "state = 'idle in transaction'",
    counted "idle" "state = 'idle'"]
  sources := [⟨"pg_stat_activity", .always, none⟩]
  since := ⟨9, 2⟩
  conditions := [⟨"backend_type = 'client backend'", ⟨10, 0⟩, none⟩]
  filterColumn := some "datname"
  missing := some "0"

/-- Activity of the databases, summed. -/
def database : Template where
  domain := .database
  name := "database"
  columns := [
    summed "numbackends",
    summed "xact_commit",
    summed "xact_rollback",
    summed "blks_read",
    summed "blks_hit",
    summedSince ⟨9, 2⟩ "blk_read_time",
    summedSince ⟨9, 2⟩ "blk_write_time",
    summedSince ⟨8, 3⟩ "tup_returned",
    summedSince ⟨8, 3⟩ "tup_fetched",
    summedSince ⟨8, 3⟩ "tup_inserted",
    summedSince ⟨8, 3⟩ "tup_updated",
    summedSince ⟨8, 3⟩ "tup_deleted",
    summedSince ⟨9, 2⟩ "temp_files",
    summedSince ⟨9, 2⟩ "temp_bytes",
    summedSince ⟨9, 1⟩ "conflicts",
    summedSince ⟨9, 2⟩ "deadlocks"]
  sources := [⟨"pg_stat_database", .always, none⟩]
  filterColumn := some "datname"
  missing := some "0"

/-- Scans, changes and maintenance of the tables, summed. -/
def allTables : Template where
  domain := .allTables
  name := "alltables"
  columns := [
    summed "seq_scan",
    summed "seq_tup_read",
    summed "idx_scan",
    summed "idx_tup_fetch",
    summed "n_tup_ins",
    summed "n_tup_upd",
    summed "n_tup_del",
    summedSince ⟨8, 3⟩ "n_tup_hot_upd",
    summedSince ⟨8, 3⟩ "n_live_tup",
    summedSince ⟨8, 3⟩ "n_dead_tup",
    summedSince ⟨9, 4⟩ "n_mod_since_analyze",
    summedSince ⟨9, 1⟩ "vacuum_count",
    summedSince ⟨9, 1⟩ "autovacuum_count",
    summedSince ⟨9, 1⟩ "analyze_count",
    summedSince ⟨9, 1⟩ "autoanalyze_count"]
  sources := [⟨"pg_stat_all_tables", .always, none⟩]
  conditions := [notInformationSchema]
  filterColumn := some "relname"
  missing := some "0"

/-- Block reads of tables, their TOAST tables and indexes, summed. -/
def tablesIo : Template where
  domain := .tablesIo
  name := "tablesio"
  columns := [
    summed "heap_blks_read",
    summed "heap_blks_hit",
    summed "toast_blks_read",
    summed "toast_blks_hit",
    summed "idx_blks_read",
    summed "idx_blks_hit",
    summed "tidx_blks_read",
    summed "tidx_blks_hit"]
  sources := [⟨"pg_statio_all_tables", .always, none⟩]
  conditions := [notInformationSchema]
  filterColumn := some "relname"
  missing := some "0"

/-- Scans of the indexes, summed. -/
def index : Template where
  domain := .index
  name := "index"
  columns := [
    summed "idx_scan",
    summed "idx_tup_read",
    summed "idx_tup_fetch"]
  sources := [⟨"pg_stat_all_indexes", .always, none⟩]
  conditions := [notInformationSchema]
  filterColumn := some "indexrelname"
  missing := some "0"

/-- Calls of the tracked functions, summed. -/
def function : Template where
  domain := .function
  name := "function"
  columns := [
    summed "calls",
    summed "total_time",
    summed "self_time"]
  sources := [⟨"pg_stat_user_functions", .always, none⟩]
  since := ⟨8, 4⟩
  conditions := [notInformationSchema]
  filterColumn := some "funcname"
  missing := some "0"

/-- Execution of statements, summed. Column names changed with releases 13 and 17. -/
def statement : Template where
  domain := .statement
  name := "statement"
  columns := [
    summed "calls",
    summed "rows",
    summedSince ⟨13, 0⟩ "total_plan_time",
    .variants "total_exec_time" [(⟨13, 0⟩, "sum(total_exec_time)"), (.always, "sum(total_time)")],
    summed "shared_blks_hit",
    summed "shared_blks_read",
    summed "shared_blks_written",
    summed "temp_blks_read",
    summed "temp_blks_written",
    .variants "blk_read_time"
      [(⟨17, 0⟩, "sum(shared_blk_read_time)"),
       (⟨9, 2⟩, "sum(blk_read_time)")],
    .variants "blk_write_time"
      [(⟨17, 0⟩, "sum(shared_blk_write_time)"),
       (⟨9, 2⟩, "sum(blk_write_time)")],
    summedSince ⟨13, 0⟩ "wal_bytes"]
  sources := [⟨"pg_stat_statements s JOIN pg_database d ON d.oid = s.dbid", .always, none⟩]
  filterColumn := some "d.datname"
  missing := some "0"

/-- The small caches, summed. -/
def slru : Template where
  domain := .slru
  name := "slru"
  columns := [
    summed "blks_zeroed",
    summed "blks_hit",
    summed "blks_read",
    summed "blks_written",
    summed "blks_exists",
    summed "flushes",
    summed "truncates"]
  sources := [⟨"pg_stat_slru", .always, none⟩]
  since := ⟨13, 0⟩
  filterColumn := some "name"
  missing := some "0"

/-- Generation and writes of WAL; releases 14 to 17 count writes and syncs there. -/
def wal : Template where
  domain := .wal
  name := "wal"
  columns := [
    .plain "wal_records",
    .plain "wal_fpi",
    .plain "wal_bytes",
    .plain "wal_buffers_full",
    .between ⟨14, 0⟩ ⟨18, 0⟩ "wal_write" "wal_write",
    .between ⟨14, 0⟩ ⟨18, 0⟩ "wal_sync" "wal_sync",
    .between ⟨14, 0⟩ ⟨18, 0⟩ "wal_write_time" "wal_write_time",
    .between ⟨14, 0⟩ ⟨18, 0⟩ "wal_sync_time" "wal_sync_time"]
  sources := [⟨"pg_stat_wal", .always, none⟩]
  since := ⟨14, 0⟩
  missing := some "0"

/-- The bytes of WAL written so far. -/
def xlog : Template where
  domain := .xlog
  name := "xlog"
  columns := [
    .variants "written"
      [(⟨10, 0⟩, "pg_wal_lsn_diff(pg_current_wal_lsn(), '0/0')"),
       (⟨9, 2⟩, "pg_xlog_location_diff(pg_current_xlog_location(), '0/0')")]]
  sources := [⟨"", .always, none⟩]
  since := ⟨9, 2⟩
  missing := some "0"

/-- Temporary files and their size. -/
def tempFile : Template where
  domain := .tempFile
  name := "tempfile"
  columns := [
    .computed "files" "count(*)",
    .computed "size" "coalesce(sum(size), 0)"]
  sources := [⟨"pg_ls_tmpdir()", .always, none⟩]
  since := ⟨12, 0⟩
  missing := some "0"

/-- One row for each running `ANALYZE`. -/
def progressAnalyze : Template where
  domain := .progressAnalyze
  name := "progressanalyze"
  columns := [
    .plain "pid",
    .computed "relation" "relid::regclass::text",
    .plain "phase",
    .plain "sample_blks_total",
    .plain "sample_blks_scanned",
    .plain "ext_stats_total",
    .plain "ext_stats_computed",
    .plain "child_tables_total",
    .plain "child_tables_done"]
  sources := [⟨"pg_stat_progress_analyze", .always, none⟩]
  since := ⟨13, 0⟩
  filterColumn := some "datname"
  orderBy := "pid"
  missing := some "0"

/-- Backends by the type of event they wait for. -/
def waitEvent : Template where
  domain := .waitEvent
  name := "waitevent"
  columns := [
    .computed "running" "count(*) FILTER (WHERE state = 'active' AND wait_event_type IS NULL)",
    waiting ⟨10, 0⟩ "activity" "Activity",
    waiting ⟨9, 6⟩ "bufferpin" "BufferPin",
    waiting ⟨10, 0⟩ "client" "Client",
    waiting ⟨10, 0⟩ "extension" "Extension",
    waiting ⟨10, 0⟩ "io" "IO",
    waiting ⟨10, 0⟩ "ipc" "IPC",
    waiting ⟨9, 6⟩ "lock" "Lock",
    .variants "lwlock"
      [(⟨10, 0⟩, "count(*) FILTER (WHERE wait_event_type = 'LWLock')"),
       (⟨9, 6⟩, "count(*) FILTER (WHERE wait_event_type IN ('LWLockNamed', 'LWLockTranche'))")],
    waiting ⟨10, 0⟩ "timeout" "Timeout"]
  sources := [⟨"pg_stat_activity", .always, none⟩]
  since := ⟨9, 6⟩
  conditions := [⟨"pid <> pg_backend_pid()", .always, none⟩]
  filterColumn := some "datname"
  missing := some "0"

/-! ## All of them -/

/-- The templates of the monitor. -/
def templates : List Template :=
  [archiver, bgwriter, connection, database, allTables, tablesIo, index, function, statement, slru,
    wal, xlog, tempFile, progressAnalyze, waitEvent]

/-- The template of a domain. -/
def template? (domain : Domain) : Option Template := templates.find? fun t => t.domain == domain

/-- The command the connection pooler answers for a domain. -/
def consoleCommand? : Domain → Option String
  | .pbPools => some "SHOW pools"
  | .pbStats => some "SHOW stats"
  | _ => none

/-- Whether the monitor can sample a domain. -/
def isMonitored (domain : Domain) : Bool :=
  (template? domain).isSome || (consoleCommand? domain).isSome

end PgVitals.Catalog.Monitor
