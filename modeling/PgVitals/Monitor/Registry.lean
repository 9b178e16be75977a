import PgVitals.Domain
import PgVitals.Monitor.Record
/-!
# The fields of each domain

The fields are, in order, the columns that the query on the domain returns. The connection pooler
names its columns, and their order does not matter.

Each list is the record of one domain, with labels, titles over runs of fields, and the kinds of the
values: counters are shown as differences, gauges as they are read. `recordKind?` finds the list of
a domain, where the monitor knows it; the domains of which only snapshots are taken have none.

That the fields agree with the columns of the queries is nothing that these lists see to. It is
proved, for every release, in `Proofs/Catalog/Parity`; that there is room for every title, in
`Proofs/Monitor/Columns`.
-/

namespace PgVitals.Monitor

open PgVitals.Monitor.Field

/-- WAL files archived, and failures. -/
def archiverFields : List Field := [
  counter "archived_count" "archived" "WAL counts",
  counter "failed_count" "failed" "WAL counts"]

/-- Checkpoints and buffer writes. -/
def bgwriterFields : List Field := [
  counter "checkpoints_timed" "timed" "checkpoints",
  counter "checkpoints_req" "requested" "checkpoints",
  timer "checkpoint_write_time" "write_time" "checkpoints",
  timer "checkpoint_sync_time" "sync_time" "checkpoints",
  counter "buffers_checkpoint" "checkpoint" "buffers",
  counter "buffers_clean" "clean" "buffers",
  counter "buffers_backend" "backend" "buffers",
  counter "buffers_alloc" "alloc" "buffers",
  counter "maxwritten_clean" "maxwritten" "misc",
  counter "buffers_backend_fsync" "backend_fsync" "misc"]

/-- Client connections by state. -/
def connectionFields : List Field := [
  gauge "total" "total" "connections",
  gauge "active" "active" "connections",
  gauge "lockwaiting" "lockwaiting" "connections",
  gauge "idleintransaction" "idle in transaction" "connections",
  gauge "idle" "idle" "connections"]

/-- Activity of the databases. -/
def databaseFields : List Field := [
  gauge "numbackends" "backends" "" 8,
  counter "xact_commit" "commit" "xacts",
  counter "xact_rollback" "rollback" "xacts",
  counter "blks_read" "read" "blocks",
  counter "blks_hit" "hit" "blocks",
  timer "blk_read_time" "read_time" "blocks",
  timer "blk_write_time" "write_time" "blocks",
  counter "tup_returned" "ret" "tuples",
  counter "tup_fetched" "fet" "tuples",
  counter "tup_inserted" "ins" "tuples",
  counter "tup_updated" "upd" "tuples",
  counter "tup_deleted" "del" "tuples",
  counter "temp_files" "files" "temp",
  counter "temp_bytes" "bytes" "temp" 9 (some "bytes"),
  counter "conflicts" "conflicts" "misc",
  counter "deadlocks" "deadlocks" "misc"]

/-- Scans, changes and maintenance of the tables. -/
def allTablesFields : List Field := [
  counter "seq_scan" "scan" "sequential",
  counter "seq_tup_read" "tuples" "sequential",
  counter "idx_scan" "scan" "index",
  counter "idx_tup_fetch" "tuples" "index",
  counter "n_tup_ins" "ins" "tuples",
  counter "n_tup_upd" "upd" "tuples",
  counter "n_tup_del" "del" "tuples",
  counter "n_tup_hot_upd" "hotupd" "tuples",
  gauge "n_live_tup" "live" "tuples",
  gauge "n_dead_tup" "dead" "tuples",
  gauge "n_mod_since_analyze" "analyze" "tuples",
  counter "vacuum_count" "vacuum" "maintenance",
  counter "autovacuum_count" "autovacuum" "maintenance",
  counter "analyze_count" "analyze" "maintenance",
  counter "autoanalyze_count" "autoanalyze" "maintenance"]

/-- Block reads of tables, their TOAST tables and indexes. -/
def tablesIoFields : List Field := [
  counter "heap_blks_read" "read" "heap table",
  counter "heap_blks_hit" "hit" "heap table",
  counter "toast_blks_read" "read" "toast table",
  counter "toast_blks_hit" "hit" "toast table",
  counter "idx_blks_read" "read" "heap indexes",
  counter "idx_blks_hit" "hit" "heap indexes",
  counter "tidx_blks_read" "read" "toast indexes",
  counter "tidx_blks_hit" "hit" "toast indexes"]

/-- Scans of the indexes. -/
def indexFields : List Field := [
  counter "idx_scan" "scan" "scan" 8,
  counter "idx_tup_read" "read" "tuples",
  counter "idx_tup_fetch" "fetch" "tuples"]

/-- Calls of the tracked functions. -/
def functionFields : List Field := [
  counter "calls" "calls" "count" 9,
  timer "total_time" "total" "time",
  timer "self_time" "self" "time"]

/-- Execution of statements. -/
def statementFields : List Field := [
  counter "calls" "calls" "statements" 8,
  counter "rows" "rows" "statements" 8,
  timer "total_plan_time" "plan" "time",
  timer "total_exec_time" "exec" "time",
  counter "shared_blks_hit" "hit" "shared blocks",
  counter "shared_blks_read" "read" "shared blocks",
  counter "shared_blks_written" "written" "shared blocks",
  counter "temp_blks_read" "read" "temp blocks",
  counter "temp_blks_written" "written" "temp blocks",
  timer "blk_read_time" "read_time" "I/O",
  timer "blk_write_time" "write_time" "I/O",
  counter "wal_bytes" "bytes" "WAL" 9 (some "bytes")]

/-- The small caches. -/
def slruFields : List Field := [
  counter "blks_zeroed" "zeroed" "blocks",
  counter "blks_hit" "hit" "blocks",
  counter "blks_read" "read" "blocks",
  counter "blks_written" "written" "blocks",
  counter "blks_exists" "exists" "blocks",
  counter "flushes" "flushes" "misc",
  counter "truncates" "truncates" "misc"]

/-- Generation and writes of WAL. -/
def walFields : List Field := [
  counter "wal_records" "records" "WAL" 8,
  counter "wal_fpi" "fpi" "WAL",
  counter "wal_bytes" "bytes" "WAL" 9 (some "bytes"),
  counter "wal_buffers_full" "buffers_full" "misc",
  counter "wal_write" "write" "operations",
  counter "wal_sync" "sync" "operations",
  timer "wal_write_time" "write_time" "time",
  timer "wal_sync_time" "sync_time" "time"]

/-- The bytes of WAL written. -/
def xlogFields : List Field := [
  counter "written" "written" "WAL" 12 (some "bytes")]

/-- Temporary files and their size. -/
def tempFileFields : List Field := [
  gauge "files" "files" "temp files",
  gauge "size" "size" "temp files" 10 (some "bytes")]

/-- One row for each running `ANALYZE`. -/
def progressAnalyzeFields : List Field := [
  gauge "pid" "pid" "",
  text "relation" "relation" "" 24,
  text "phase" "phase" "" 28,
  gauge "sample_blks_total" "total" "sample blocks" 9,
  gauge "sample_blks_scanned" "scanned" "sample blocks" 9,
  gauge "ext_stats_total" "total" "ext stats",
  gauge "ext_stats_computed" "computed" "ext stats",
  gauge "child_tables_total" "total" "child tables",
  gauge "child_tables_done" "done" "child tables"]

/-- Backends by the type of event they wait for. -/
def waitEventFields : List Field := [
  gauge "running" "running" "",
  gauge "activity" "Activity" "wait event types",
  gauge "bufferpin" "BufferPin" "wait event types",
  gauge "client" "Client" "wait event types",
  gauge "extension" "Extension" "wait event types",
  gauge "io" "IO" "wait event types",
  gauge "ipc" "IPC" "wait event types",
  gauge "lock" "Lock" "wait event types",
  gauge "lwlock" "LWLock" "wait event types",
  gauge "timeout" "Timeout" "wait event types"]

/-- The pools of the connection pooler. -/
def pbPoolsFields : List Field := [
  gauge "cl_active" "active" "client",
  gauge "cl_waiting" "waiting" "client",
  gauge "sv_active" "active" "server",
  gauge "sv_idle" "idle" "server",
  gauge "sv_used" "used" "server",
  gauge "sv_tested" "tested" "server",
  gauge "sv_login" "login" "server",
  gauge "maxwait" "maxwait" "misc"]

/-- The traffic of the connection pooler. -/
def pbStatsFields : List Field := [
  counter "total_xact_count" "xacts" "count" 8,
  counter "total_query_count" "queries" "count" 8,
  counter "total_received" "received" "bytes" 9 (some "bytes"),
  counter "total_sent" "sent" "bytes" 9 (some "bytes"),
  counter "total_xact_time" "xact" "time (us)" 10,
  counter "total_query_time" "query" "time (us)" 10,
  counter "total_wait_time" "wait" "time (us)" 10]

/-- The record of a domain, where the monitor knows it. -/
def recordKind? : Domain → Option RecordKind
  | .archiver => some { fields := archiverFields }
  | .bgwriter => some { fields := bgwriterFields }
  | .connection => some { fields := connectionFields }
  | .database => some { fields := databaseFields }
  | .allTables => some { fields := allTablesFields }
  | .tablesIo => some { fields := tablesIoFields }
  | .index => some { fields := indexFields }
  | .function => some { fields := functionFields }
  | .statement => some { fields := statementFields }
  | .slru => some { fields := slruFields }
  | .wal => some { fields := walFields }
  | .xlog => some { fields := xlogFields }
  | .tempFile => some { fields := tempFileFields }
  | .progressAnalyze => some { fields := progressAnalyzeFields, multirow := true }
  | .waitEvent => some { fields := waitEventFields }
  | .pbPools => some { fields := pbPoolsFields }
  | .pbStats => some { fields := pbStatsFields }
  | _ => none

end PgVitals.Monitor
