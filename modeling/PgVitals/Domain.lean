import PgVitals.Fault
import PgVitals.Text.Lower
import PgVitals.Text.Split
import PgVitals.Value
/-!
# Statistics domains

The subjects the program knows statistics of, each with the name it has on the command line.
-/

namespace PgVitals

open PgVitals.Text

/-- A subject of statistics. -/
inductive Domain where
  | archiver | bgwriter | connection | database | databaseConflicts | replication
  | replicationSlots | slru | subscription | wal | walReceiver | allTables | allIndexes
  | ioTables | ioIndexes | ioSequences | userFunctions | classSize | statements | xlog
  | progressAnalyze | tablesIo | index | function | statement | tempFile | pbPools | pbStats
  | waitEvent | fsm
deriving DecidableEq, Inhabited

namespace Domain

/-- Every domain. -/
def all : List Domain :=
  [archiver, bgwriter, connection, database, databaseConflicts, replication, replicationSlots,
    slru, subscription, wal, walReceiver, allTables, allIndexes, ioTables, ioIndexes, ioSequences,
    userFunctions, classSize, statements, xlog, progressAnalyze, tablesIo, index, function,
    statement, tempFile, pbPools, pbStats, waitEvent, fsm]

/-- The name of a domain. -/
def name : Domain → String
  | archiver => "archiver"
  | bgwriter => "bgwriter"
  | connection => "connection"
  | database => "database"
  | databaseConflicts => "databaseconflicts"
  | replication => "replication"
  | replicationSlots => "replicationslots"
  | slru => "slru"
  | subscription => "subscription"
  | wal => "wal"
  | walReceiver => "walreceiver"
  | allTables => "alltables"
  | allIndexes => "allindexes"
  | ioTables => "iotables"
  | ioIndexes => "ioindexes"
  | ioSequences => "iosequences"
  | userFunctions => "userfunctions"
  | classSize => "classsize"
  | statements => "statements"
  | xlog => "xlog"
  | progressAnalyze => "progressanalyze"
  | tablesIo => "tablesio"
  | index => "index"
  | function => "function"
  | statement => "statement"
  | tempFile => "tempfile"
  | pbPools => "pbpools"
  | pbStats => "pbstats"
  | waitEvent => "waitevent"
  | fsm => "fsm"

/-- Other spellings that are accepted. -/
def resolveAlias (s : String) : String :=
  if s == "table" then "alltables" else if s == "tableio" then "tablesio" else s

/-- The domain of a name; blanks around it and the case of its letters do not matter. -/
def ofName (s : String) : Except Fault Domain :=
  let wanted := resolveAlias (lower (trim s))
  match all.find? fun d => d.name == wanted with
  | some d => .ok d
  | none => .error (.unknownDomain (quote wanted))

/-- The domain that a value names. Bytes name none. -/
def ofValue : Value → Except Fault Domain
  | .text s => ofName s
  | .bytes bs => .error (.unknownDomain (quoteBytes bs))
  | _ => .error .missingPart

end Domain

end PgVitals
