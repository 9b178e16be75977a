import PgVitals.Catalog.Template
/-!
# Queries of the snapshot

One template for each view that a snapshot dumps, in the order in which they are dumped. Rows begin
with the time of capture. A column the release does not have is left out.

* `Snapshot.templates` are all of them. Each has the name of its view, the first release that has
  the view, and what else is needed to read it: the rights of a superuser, or an extension.
* `truncatedSince` and `truncated` cut a time to the second, and `wholeView` selects whatever
  columns a view has.

Where a template selects whatever columns there are, their number and order are up to the server,
and the line of column names is made of what comes back. Rows are not summed, and no template can be
narrowed to one object.
-/

namespace PgVitals.Catalog.Snapshot

open Column

/-- Leaves out the views that describe the system itself. -/
def notInformationSchema : Fragment := ⟨"schemaname <> 'information_schema'", .always, none⟩

/-- A time cut to the second, from a release on. -/
def truncatedSince (release : Release) (name : String) : Column :=
  .computedSince release name ("date_trunc('seconds', " ++ name ++ ")")

/-- A time cut to the second. -/
def truncated (name : String) : Column := truncatedSince .always name

/-- A counter that left the view when checkpoints got one of their own, with release 17. -/
def untilCheckpointer (release : Release) (name : String) : Column :=
  .between release ⟨17, 0⟩ name name

/-- Every column of a view of user objects. -/
def wholeView (since : Release) (domain : Domain) (view orderBy : String) : Template where
  domain := domain
  name := view
  columns := [.star]
  sources := [⟨view, .always, none⟩]
  since := since
  conditions := [notInformationSchema]
  orderBy := orderBy
  timestamp := true

/-! ## Templates -/

/-- The sessions. -/
def activity : Template where
  domain := .connection
  name := "pg_stat_activity"
  columns := [
    .plain "datid",
    .plain "datname",
    .variants "pid" [(⟨9, 2⟩, "pid"), (.always, "procpid")],
    .since ⟨13, 0⟩ "leader_pid",
    .plain "usesysid",
    .plain "usename",
    .since ⟨9, 0⟩ "application_name",
    .since ⟨8, 1⟩ "client_addr",
    .since ⟨9, 1⟩ "client_hostname",
    .since ⟨8, 1⟩ "client_port",
    truncatedSince ⟨8, 1⟩ "backend_start",
    truncatedSince ⟨8, 3⟩ "xact_start",
    truncated "query_start",
    .since ⟨9, 2⟩ "state_change",
    .since ⟨9, 6⟩ "wait_event_type",
    .since ⟨9, 6⟩ "wait_event",
    .between ⟨8, 2⟩ ⟨9, 6⟩ "waiting" "waiting",
    .since ⟨9, 4⟩ "backend_xid",
    .since ⟨9, 4⟩ "backend_xmin",
    .since ⟨14, 0⟩ "query_id",
    .variants "query" [(⟨9, 2⟩, "query"), (.always, "current_query")],
    .since ⟨10, 0⟩ "backend_type",
    .since ⟨9, 2⟩ "state"]
  sources := [⟨"pg_stat_activity", .always, none⟩]
  orderBy := "pid"
  timestamp := true

/-- The archiver, with the last file of each outcome. -/
def archiver : Template where
  domain := .archiver
  name := "pg_stat_archiver"
  columns := [
    .plain "archived_count",
    .plain "last_archived_wal",
    truncated "last_archived_time",
    .plain "failed_count",
    .plain "last_failed_wal",
    truncated "last_failed_time",
    truncated "stats_reset"]
  sources := [⟨"pg_stat_archiver", .always, none⟩]
  since := ⟨9, 4⟩
  timestamp := true

/-- Checkpoints and buffer writes, as far as the view has them. -/
def bgwriter : Template where
  domain := .bgwriter
  name := "pg_stat_bgwriter"
  columns := [
    untilCheckpointer .always "checkpoints_timed",
    untilCheckpointer .always "checkpoints_req",
    untilCheckpointer ⟨9, 2⟩ "checkpoint_write_time",
    untilCheckpointer ⟨9, 2⟩ "checkpoint_sync_time",
    untilCheckpointer .always "buffers_checkpoint",
    .plain "buffers_clean",
    .plain "maxwritten_clean",
    untilCheckpointer .always "buffers_backend",
    untilCheckpointer ⟨9, 1⟩ "buffers_backend_fsync",
    .plain "buffers_alloc",
    truncatedSince ⟨9, 1⟩ "stats_reset"]
  sources := [⟨"pg_stat_bgwriter", .always, none⟩]
  since := ⟨8, 3⟩
  timestamp := true

/-- Activity of each database. -/
def database : Template where
  domain := .database
  name := "pg_stat_database"
  columns := [
    .plain "datid",
    .plain "datname",
    .plain "numbackends",
    .plain "xact_commit",
    .plain "xact_rollback",
    .plain "blks_read",
    .plain "blks_hit",
    .since ⟨8, 3⟩ "tup_returned",
    .since ⟨8, 3⟩ "tup_fetched",
    .since ⟨8, 3⟩ "tup_inserted",
    .since ⟨8, 3⟩ "tup_updated",
    .since ⟨8, 3⟩ "tup_deleted",
    .since ⟨9, 1⟩ "conflicts",
    truncatedSince ⟨9, 1⟩ "stats_reset",
    .since ⟨9, 2⟩ "temp_files",
    .since ⟨9, 2⟩ "temp_bytes",
    .since ⟨9, 2⟩ "deadlocks",
    .since ⟨9, 2⟩ "blk_read_time",
    .since ⟨9, 2⟩ "blk_write_time",
    .since ⟨12, 0⟩ "checksum_failures",
    .since ⟨12, 0⟩ "checksum_last_failure",
    .since ⟨14, 0⟩ "session_time",
    .since ⟨14, 0⟩ "active_time",
    .since ⟨14, 0⟩ "idle_in_transaction_time",
    .since ⟨14, 0⟩ "sessions",
    .since ⟨14, 0⟩ "sessions_abandoned",
    .since ⟨14, 0⟩ "sessions_fatal",
    .since ⟨14, 0⟩ "sessions_killed"]
  sources := [⟨"pg_stat_database", .always, none⟩]
  orderBy := "datname"
  timestamp := true

/-- Cancelled recoveries, as the view has them. -/
def databaseConflicts : Template where
  domain := .databaseConflicts
  name := "pg_stat_database_conflicts"
  columns := [.star]
  sources := [⟨"pg_stat_database_conflicts", .always, none⟩]
  since := ⟨9, 1⟩
  orderBy := "datname"
  timestamp := true

/-- The standby connections; positions were called locations before release 10. -/
def replication : Template where
  domain := .replication
  name := "pg_stat_replication"
  columns := [
    .variants "pid" [(⟨9, 2⟩, "pid"), (.always, "procpid")],
    .plain "usesysid",
    .plain "usename",
    .plain "application_name",
    .plain "client_addr",
    .plain "client_hostname",
    .plain "client_port",
    truncated "backend_start",
    .since ⟨9, 4⟩ "backend_xmin",
    .plain "state",
    .variants "master_location"
      [(⟨10, 0⟩, "pg_current_wal_lsn()"),
       (.always, "pg_current_xlog_location()")],
    .variants "sent_lsn" [(⟨10, 0⟩, "sent_lsn"), (.always, "sent_location")],
    .variants "write_lsn" [(⟨10, 0⟩, "write_lsn"), (.always, "write_location")],
    .variants "flush_lsn" [(⟨10, 0⟩, "flush_lsn"), (.always, "flush_location")],
    .variants "replay_lsn" [(⟨10, 0⟩, "replay_lsn"), (.always, "replay_location")],
    .since ⟨10, 0⟩ "write_lag",
    .since ⟨10, 0⟩ "flush_lag",
    .since ⟨10, 0⟩ "replay_lag",
    .plain "sync_priority",
    .plain "sync_state",
    .since ⟨12, 0⟩ "reply_time"]
  sources := [⟨"pg_stat_replication", .always, none⟩]
  since := ⟨9, 1⟩
  orderBy := "application_name"
  timestamp := true

/-- Logical replication slots. -/
def replicationSlots : Template where
  domain := .replicationSlots
  name := "pg_stat_replication_slots"
  columns := [
    .plain "slot_name",
    .plain "spill_txns",
    .plain "spill_count",
    .plain "spill_bytes",
    .plain "stream_txns",
    .plain "stream_count",
    .plain "stream_bytes",
    .plain "total_txns",
    .plain "total_bytes",
    truncated "stats_reset"]
  sources := [⟨"pg_stat_replication_slots", .always, none⟩]
  since := ⟨14, 0⟩
  orderBy := "slot_name"
  timestamp := true

/-- Each of the small caches. -/
def slru : Template where
  domain := .slru
  name := "pg_stat_slru"
  columns := [
    .plain "name",
    .plain "blks_zeroed",
    .plain "blks_hit",
    .plain "blks_read",
    .plain "blks_written",
    .plain "blks_exists",
    .plain "flushes",
    .plain "truncates",
    truncated "stats_reset"]
  sources := [⟨"pg_stat_slru", .always, none⟩]
  since := ⟨13, 0⟩
  orderBy := "name"
  timestamp := true

/-- Subscription workers. -/
def subscription : Template where
  domain := .subscription
  name := "pg_stat_subscription"
  columns := [
    .plain "subid",
    .plain "subname",
    .plain "pid",
    .plain "relid",
    .plain "received_lsn",
    truncated "last_msg_send_time",
    truncated "last_msg_receipt_time",
    .plain "latest_end_lsn",
    truncated "latest_end_time"]
  sources := [⟨"pg_stat_subscription", .always, none⟩]
  since := ⟨10, 0⟩
  orderBy := "subid"
  timestamp := true

/-- Generation and writes of WAL; releases 14 to 17 count writes and syncs there. -/
def wal : Template where
  domain := .wal
  name := "pg_stat_wal"
  columns := [
    .plain "wal_records",
    .plain "wal_fpi",
    .plain "wal_bytes",
    .plain "wal_buffers_full",
    .between ⟨14, 0⟩ ⟨18, 0⟩ "wal_write" "wal_write",
    .between ⟨14, 0⟩ ⟨18, 0⟩ "wal_sync" "wal_sync",
    .between ⟨14, 0⟩ ⟨18, 0⟩ "wal_write_time" "wal_write_time",
    .between ⟨14, 0⟩ ⟨18, 0⟩ "wal_sync_time" "wal_sync_time",
    truncated "stats_reset"]
  sources := [⟨"pg_stat_wal", .always, none⟩]
  since := ⟨14, 0⟩
  timestamp := true

/-- The receiver of a standby, as the view has it. -/
def walReceiver : Template where
  domain := .walReceiver
  name := "pg_stat_wal_receiver"
  columns := [.star]
  sources := [⟨"pg_stat_wal_receiver", .always, none⟩]
  since := ⟨9, 6⟩
  timestamp := true

/-- Scans, changes and maintenance of each table. -/
def allTables : Template where
  domain := .allTables
  name := "pg_stat_all_tables"
  columns := [
    .plain "relid",
    .plain "schemaname",
    .plain "relname",
    .plain "seq_scan",
    .plain "seq_tup_read",
    .plain "idx_scan",
    .plain "idx_tup_fetch",
    .plain "n_tup_ins",
    .plain "n_tup_upd",
    .plain "n_tup_del",
    .since ⟨8, 3⟩ "n_tup_hot_upd",
    .since ⟨8, 3⟩ "n_live_tup",
    .since ⟨8, 3⟩ "n_dead_tup",
    .since ⟨9, 4⟩ "n_mod_since_analyze",
    .since ⟨13, 0⟩ "n_ins_since_vacuum",
    truncatedSince ⟨8, 2⟩ "last_vacuum",
    truncatedSince ⟨8, 2⟩ "last_autovacuum",
    truncatedSince ⟨8, 2⟩ "last_analyze",
    truncatedSince ⟨8, 2⟩ "last_autoanalyze",
    .since ⟨9, 1⟩ "vacuum_count",
    .since ⟨9, 1⟩ "autovacuum_count",
    .since ⟨9, 1⟩ "analyze_count",
    .since ⟨9, 1⟩ "autoanalyze_count"]
  sources := [⟨"pg_stat_all_tables", .always, none⟩]
  conditions := [notInformationSchema]
  orderBy := "schemaname, relname"
  timestamp := true

/-- Scans of each index, as the view has them. -/
def allIndexes : Template :=
  wholeView .always .allIndexes "pg_stat_all_indexes" "schemaname, relname"

/-- Block reads of each table, as the view has them. -/
def ioTables : Template :=
  wholeView .always .ioTables "pg_statio_all_tables" "schemaname, relname"

/-- Block reads of each index, as the view has them. -/
def ioIndexes : Template :=
  wholeView .always .ioIndexes "pg_statio_all_indexes" "schemaname, relname"

/-- Block reads of each sequence, as the view has them. -/
def ioSequences : Template :=
  wholeView .always .ioSequences "pg_statio_all_sequences" "schemaname, relname"

/-- Calls of each tracked function, as the view has them. -/
def userFunctions : Template :=
  wholeView ⟨8, 4⟩ .userFunctions "pg_stat_user_functions" "schemaname, funcname"

/-- The size of each relation. -/
def classSize : Template where
  domain := .classSize
  name := "pg_class_size"
  columns := [
    .computed "nspname" "n.nspname",
    .computed "relname" "c.relname",
    .computed "relkind" "c.relkind",
    .computed "reltuples" "c.reltuples",
    .computed "relpages" "c.relpages",
    .computedSince ⟨8, 1⟩ "pg_relation_size" "pg_relation_size(c.oid)"]
  sources := [⟨"pg_class c, pg_namespace n", .always, none⟩]
  conditions := [
    ⟨"n.oid = c.relnamespace", .always, none⟩,
    ⟨"n.nspname <> 'information_schema'", .always, none⟩]
  orderBy := "n.nspname, c.relname"
  timestamp := true

/-- Each tracked statement. Line feeds in its text become blanks. -/
def statements : Template where
  domain := .statements
  name := "pg_stat_statements"
  columns := [
    .computed "rolname" "r.rolname",
    .computed "datname" "d.datname",
    .since ⟨14, 0⟩ "toplevel",
    .since ⟨14, 0⟩ "queryid",
    .computed "query" "regexp_replace(query, E'\\n', ' ', 'g')",
    .since ⟨13, 0⟩ "plans",
    .since ⟨13, 0⟩ "total_plan_time",
    .since ⟨13, 0⟩ "min_plan_time",
    .since ⟨13, 0⟩ "max_plan_time",
    .since ⟨13, 0⟩ "mean_plan_time",
    .since ⟨13, 0⟩ "stddev_plan_time",
    .plain "calls",
    .variants "total_exec_time" [(⟨13, 0⟩, "total_exec_time"), (.always, "total_time")],
    .since ⟨13, 0⟩ "min_exec_time",
    .since ⟨13, 0⟩ "max_exec_time",
    .since ⟨13, 0⟩ "mean_exec_time",
    .since ⟨13, 0⟩ "stddev_exec_time",
    .plain "rows",
    .plain "shared_blks_hit",
    .plain "shared_blks_read",
    .plain "shared_blks_written",
    .plain "local_blks_hit",
    .plain "local_blks_read",
    .plain "local_blks_written",
    .plain "temp_blks_read",
    .plain "temp_blks_written",
    .since ⟨14, 0⟩ "wal_records",
    .since ⟨14, 0⟩ "wal_fpi",
    .since ⟨14, 0⟩ "wal_bytes"]
  sources := [⟨"pg_stat_statements q, pg_database d, pg_roles r", .always, none⟩]
  conditions := [
    ⟨"q.userid = r.oid", .always, none⟩,
    ⟨"q.dbid = d.oid", .always, none⟩]
  orderBy := "r.rolname, d.datname"
  timestamp := true

/-- The files of the WAL directory, and which of them is current. -/
def xlog : Template where
  domain := .xlog
  name := "pg_xlog_stat"
  columns := [
    .variants "current"
      [(⟨10, 0⟩, "pg_walfile_name(pg_current_wal_lsn()) = pg_ls_dir"),
       (.always, "pg_xlogfile_name(pg_current_xlog_location()) = pg_ls_dir")],
    .computed "filename" "pg_ls_dir",
    .variants "modification_timestamp"
      [(⟨10, 0⟩, "(SELECT modification FROM pg_stat_file('pg_wal/' || pg_ls_dir))"),
       (.always, "(SELECT modification FROM pg_stat_file('pg_xlog/' || pg_ls_dir))")]]
  sources := [
    ⟨"pg_ls_dir('pg_wal')", ⟨10, 0⟩, none⟩,
    ⟨"pg_ls_dir('pg_xlog')", ⟨8, 2⟩, none⟩]
  since := ⟨8, 2⟩
  conditions := [⟨"pg_ls_dir ~ E'^[0-9A-F]\x7b24\x7d'", .always, none⟩]
  orderBy := "pg_ls_dir"
  timestamp := true

/-! ## All of them -/

/-- The templates of a snapshot, in the order of the dump. -/
def templates : List Template :=
  [activity, archiver, bgwriter, database, databaseConflicts, replication, replicationSlots, slru,
    subscription, wal, walReceiver, allTables, allIndexes, ioTables, ioIndexes, ioSequences,
    userFunctions, classSize, statements, xlog]

/-- The template of a view. -/
def template? (view : String) : Option Template := templates.find? fun t => t.name == view

/-- The domains only a superuser may read. -/
def needsSuperuser (domain : Domain) : Bool := domain == .xlog

/-- The domains that an extension collects. -/
def needsStatementsExtension (domain : Domain) : Bool := domain == .statements

/-- Asks whether the user is a superuser. -/
def superuserQuery : String := "SELECT rolsuper FROM pg_roles WHERE rolname = current_user"

end PgVitals.Catalog.Snapshot
