import PgVitals.Command.Utility
import PgVitals.Value
/-!
# Invocations

What a command line says once it is read: what all utilities can be told, and what the selected one
is to do. What the command line leaves open is null, and left to the settings; an option that is
given without a value has an empty list for it.

* `GeneralOptions` is for all utilities, and there is a record of options for each of them.
* `Task` is one of these records, and `Invocation` a task with the options of all utilities.

The values are those that reading has made of the texts: numbers are numbers, and have been judged
as far as a text can be judged alone. What is judged together with the settings is in
`Command/Tasks`.
-/

namespace PgVitals

/-- What every utility can be told. -/
structure GeneralOptions where
  verbose : Bool := false
  settingsFile : Value := .null
  host : Value := .null
  port : Value := .null
  user : Value := .null
  database : Value := .null

/-- What a snapshot can be told. -/
structure SnapshotOptions where
  directory : Value := .null
  quiet : Bool := false

/-- What a monitor can be told. -/
structure MonitorOptions where
  subject : Value := .null
  filter : Value := .null
  humanReadable : Bool := false
  singleHeader : Bool := false
  /-- The seconds between two samples. -/
  delay : Option Int := none
  /-- The number of samples. -/
  count : Option Int := none

/-- What a report can be told. -/
structure ReportOptions where
  /-- The release of the server to write a script for. -/
  script : Value := .null

/-- What a trace can be told. The process has to be given. -/
structure TraceOptions where
  workers : Bool := false
  interval : Value := .null
  pid : Int := 0

/-- What the display of free space can be told. The relation has to be given. -/
structure FreeSpaceOptions where
  relation : Value := .null
  groups : Value := .null

/-- What is to be done. -/
inductive Task where
  | snapshot (options : SnapshotOptions)
  | monitor (options : MonitorOptions)
  | report (options : ReportOptions)
  | trace (options : TraceOptions)
  | freeSpace (options : FreeSpaceOptions)

/-- The utility that does a task. -/
def Task.utility : Task → Utility
  | snapshot _ => .snapshot
  | monitor _ => .monitor
  | report _ => .report
  | trace _ => .trace
  | freeSpace _ => .freeSpace

/-- A command line that is read. -/
structure Invocation where
  general : GeneralOptions
  task : Task

end PgVitals
