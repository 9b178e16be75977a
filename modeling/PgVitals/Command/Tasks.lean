import PgVitals.Command.Access
import PgVitals.FreeSpace
import PgVitals.Monitor.Collector
import PgVitals.Report.Live
import PgVitals.Report.Script
import PgVitals.Snapshot.Dump
import PgVitals.Trace.Tracer
/-!
# Tasks

What each utility does with its options. The command line comes before the settings. Options are
judged before there is a connection, so that a mistake in them costs the server nothing.

* `positiveOf`, `positiveOrNull` and `domainOf` judge single values, and `MonitorOptions.plan` and
  `TraceOptions.target` all that a utility needs.
* `Task.perform` does a task. Each utility has a connection of the kind it needs: those that create
  objects have one that may write, and the connection pooler cannot be told that a session only
  reads.
* `takeSnapshot` gives a refused statement, or a file that does not work, an exit status of its own.

A value that passes for null is passed on as null, whether or not anyone can make use of it. Which
options are let through although they are of no use is the matter of `Proofs/Command/Judging`.
-/

namespace PgVitals

open PgVitals.Catalog

/-- Where the options of a task meet the settings. -/
structure Context where
  general : GeneralOptions
  settings : Settings

/-- How the server is reached. -/
def Context.target (c : Context) : Run ConnectionSettings := do
  return c.settings.connectionFor (← read).environment c.general.connection

/-- A positive whole number out of a value. -/
def positiveOf (option : String) (v : Value) : Except Failure Int :=
  match v.whole? with
  | some n => if n ≤ 0 then .error (.config (.notPositive option)) else .ok n
  | none => .error (.config (.notPositive option))

/-- A positive whole number out of a value, or nothing where there is none. -/
def positiveOrNull (option : String) (v : Value) : Except Failure (Option Int) :=
  match v with
  | .null => .ok none
  | v => some <$> positiveOf option v

/-- A number, or null where there is none. -/
def numberOrNull (n : Option Int) : Value := (n.map Value.int).getD .null

/-! ## Snapshots -/

/-- The exit status of a snapshot that a statement or a file ends. -/
def snapshotFailure : Int := -1

/-- Takes a snapshot; a refused statement or a file that does not work has an exit status of its
own. -/
def takeSnapshot (directory : Value) (quiet : Bool) : Run Unit :=
  Run.rescue (do let _ ← Snapshot.run directory quiet) fun failure => do
    match failure with
    | .query _ _ _ | .sink _ =>
      Run.report failure
      Run.fail (.exit snapshotFailure)
    | failure => Run.fail failure

/-- Does the task of the utility that takes snapshots. -/
def SnapshotOptions.perform (o : SnapshotOptions) (c : Context) : Run Unit := do
  let directory := Settings.pick o.directory c.settings.snapshot.directory
  Snapshot.requireDirectory directory
  let access : Access := { utility := .snapshot, target := ← c.target }
  access.use (takeSnapshot directory (o.quiet || c.settings.snapshot.quiet))

/-! ## The monitor -/

/-- The domain that a value names. -/
def domainOf (v : Value) : Except Failure Domain :=
  let unknown : Failure := .config (.unknownStatistic v.shown)
  match Domain.ofValue v with
  | .ok d => if Monitor.isMonitored d then .ok d else .error unknown
  | .error (.unknownDomain _) => .error unknown
  | .error fault => .error (.fault fault)

/-- Whether a domain can be narrowed to one object. -/
def acceptsFilter (d : Domain) : Bool := (Monitor.template? d).any fun t => t.filterColumn.isSome

/-- What a monitor is to do. -/
structure MonitorPlan where
  subject : Monitor.Subject
  pace : Monitor.Pace

/-- Judges the options of a monitor. -/
def MonitorOptions.plan (o : MonitorOptions) (settings : MonitorSettings) :
    Except Failure MonitorPlan := do
  let domain ← domainOf (Settings.pick o.subject settings.subject)
  if !(o.filter matches .null) && !acceptsFilter domain then throw (.config (.noFilter domain))
  let interval := Settings.pick (numberOrNull o.delay) settings.interval
  let _ ← positiveOrNull "delay" interval
  let count ← positiveOrNull "count" (Settings.pick (numberOrNull o.count) settings.count)
  return {
    subject := ⟨domain, o.filter, o.humanReadable || settings.humanReadable⟩
    pace := ⟨interval, count, !(o.singleHeader || settings.singleHeader)⟩ }

/-- Does the task of the monitor. The connection pooler cannot be told that a session only reads. -/
def MonitorOptions.perform (o : MonitorOptions) (c : Context) : Run Unit := do
  let plan ← Run.ofExcept (o.plan c.settings.monitor)
  let access : Access :=
    { utility := .monitor
      target := ← c.target
      readOnly := (Monitor.consoleCommand? plan.subject.domain).isNone
      watchResize := (← read).terminal }
  access.use (Monitor.run plan.subject plan.pace)

/-! ## Reports -/

/-- Writes the report for a server of some release as a script. -/
def writeScript (c : Context) (release : Value) : Run Unit := do
  let release ← Run.ofExcept (Release.ofValue release)
  let target ← c.target
  let database ← Run.ofFault target.database.written
  let script ← Run.ofFault (Report.script release database (.list c.settings.excluded))
  Run.note (.printed script)

/-- Does the task of the report. Writing the script needs no connection; running the report creates
objects. -/
def ReportOptions.perform (o : ReportOptions) (c : Context) : Run Unit := do
  match o.script with
  | .null =>
    let target ← c.target
    let access : Access := { utility := .report, target := target, readOnly := false }
    access.use (Report.run ⟨target.database.shown, .list c.settings.excluded⟩)
  | release => writeScript c release

/-! ## Traces -/

/-- Judges the options of a trace. -/
def TraceOptions.target (o : TraceOptions) (settings : TraceSettings) :
    Except Failure Trace.Target :=
  let interval := Settings.pick o.interval (.float settings.interval)
  match interval.before (.int 0) with
  | .error fault => .error (.fault fault)
  | .ok true => .error (.config .negativeInterval)
  | .ok false => .ok ⟨o.pid, interval, o.workers || settings.workers⟩

/-- Does the task of the tracer, which creates objects. -/
def TraceOptions.perform (o : TraceOptions) (c : Context) : Run Unit := do
  let target ← Run.ofExcept (o.target c.settings.trace)
  let access : Access := { utility := .trace, target := ← c.target, readOnly := false }
  access.use (Trace.start target)

/-! ## Free space -/

/-- Does the task of the display of free space. -/
def FreeSpaceOptions.perform (o : FreeSpaceOptions) (c : Context) : Run Unit := do
  let groups ←
    Run.ofExcept (positiveOf "groups" (Settings.pick o.groups c.settings.groups))
  let access : Access := { utility := .freeSpace, target := ← c.target }
  access.use do
    let _ ← FreeSpace.display o.relation groups

/-! ## All tasks -/

/-- Does a task. -/
def Task.perform (c : Context) : Task → Run Unit
  | .snapshot options => options.perform c
  | .monitor options => options.perform c
  | .report options => options.perform c
  | .trace options => options.perform c
  | .freeSpace options => options.perform c

end PgVitals
