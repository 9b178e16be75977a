import PgVitals.Command.Program
import PgVitals.Proofs.Command.Working
/-!
# Jobs

A command first reads its settings and judges its options; what is left then is a job: some work
over a connection. A command that has nothing to do over a connection has no job.

* `Job` is what a command does over its connection, and how it is to use it. `Job.work` is the work,
  with the failures that a snapshot sees to itself, and `Job.perform` opens and closes the
  connection around it.
* `Task.prepare` and `Invocation.prepare` are what comes before. They do nothing but work, so there
  is no connection yet and nothing is asked: `Task.works_prepare` and `Invocation.works_prepare`.
* `Task.perform_eq` and `Invocation.perform_eq` say that a task, and a command, is its preparation
  and then its job.

The program does both in one go, utility by utility. Here the two are separated once for all
utilities, so that what is proved about leaving a command is proved of jobs, whatever utility they
belong to.
-/

namespace PgVitals

open Catalog Run

/-- What the command of a utility does over its connection. -/
structure Job (u : Utility) where
  access : Access
  own : access.utility = u
  body : Run Unit
  works : body.Works

/-- What becomes of a failure of a snapshot: a refused statement and a file that does not work have
an exit status of their own. -/
def endSnapshot (failure : Failure) : Run Unit := do
  match failure with
  | .query _ _ _ | .sink _ =>
    Run.report failure
    Run.fail (.exit snapshotFailure)
  | failure => Run.fail failure

variable {u : Utility}

/-- Does a job; snapshots see to some failures of their own. -/
def Job.work (j : Job u) : Run Unit :=
  if u = .snapshot then Run.rescue j.body endSnapshot else j.body

/-- Does a job over its connection, if there is one. -/
def Job.perform : Option (Job u) → Run Unit
  | some j => j.access.use j.work
  | none => pure ()

/-- Judges the options of a task, and does what needs no connection. -/
def Task.prepare (c : Context) : (task : Task) → Run (Option (Job task.utility))
  | .snapshot o => do
    let directory := Settings.pick o.directory c.settings.snapshot.directory
    let quiet := o.quiet || c.settings.snapshot.quiet
    Snapshot.requireDirectory directory
    let target ← c.target
    return some {
      access := { utility := .snapshot, target := target }
      own := rfl
      body := do let _ ← Snapshot.run directory quiet
      works := (Snapshot.works_run directory quiet).bind fun _ => .pure _ }
  | .monitor o => do
    let plan ← Run.ofExcept (o.plan c.settings.monitor)
    let target ← c.target
    let w ← read
    return some {
      access :=
        { utility := .monitor
          target := target
          readOnly := (Monitor.consoleCommand? plan.subject.domain).isNone
          watchResize := w.terminal }
      own := rfl
      body := Monitor.run plan.subject plan.pace
      works := Monitor.works_run _ _ }
  | .report o => do
    match o.script with
    | .null =>
      let target ← c.target
      return some {
        access := { utility := .report, target := target, readOnly := false }
        own := rfl
        body := Report.run ⟨target.database.shown, .list c.settings.excluded⟩
        works := Report.works_run _ }
    | release => do
      writeScript c release
      return none
  | .trace o => do
    let subject ← Run.ofExcept (o.target c.settings.trace)
    let target ← c.target
    return some {
      access := { utility := .trace, target := target, readOnly := false }
      own := rfl
      body := Trace.start subject
      works := Trace.works_start subject }
  | .freeSpace o => do
    let groups ← Run.ofExcept (positiveOf "groups" (Settings.pick o.groups c.settings.groups))
    let target ← c.target
    return some {
      access := { utility := .freeSpace, target := target }
      own := rfl
      body := do let _ ← FreeSpace.display o.relation groups
      works := (FreeSpace.works_display _ _).bind fun _ => .pure _ }

theorem takeSnapshot_eq (directory : Value) (quiet : Bool) :
    takeSnapshot directory quiet =
      Run.rescue (do let _ ← Snapshot.run directory quiet) endSnapshot := by
  unfold takeSnapshot
  refine congrArg (Run.rescue _) (funext fun failure => ?_)
  cases failure <;> rfl

/-- A task is its preparation, and then its job. -/
theorem Task.perform_eq (c : Context) (task : Task) :
    task.perform c = task.prepare c >>= Job.perform := by
  cases task with
  | snapshot o =>
    simp only [Task.perform, SnapshotOptions.perform, prepare, bind_assoc, pure_bind, Job.perform,
      Job.work, Task.utility, takeSnapshot_eq, if_true]
  | monitor o =>
    simp only [Task.perform, MonitorOptions.perform, prepare, bind_assoc, pure_bind, Job.perform,
      Job.work, Task.utility, reduceCtorEq, if_false]
  | report o =>
    obtain ⟨script⟩ := o
    cases script with
    | null =>
      simp only [Task.perform, ReportOptions.perform, prepare, bind_assoc, pure_bind, Job.perform,
        Job.work, Task.utility, reduceCtorEq, if_false]
    | _ =>
      simp only [Task.perform, ReportOptions.perform, prepare, bind_assoc, pure_bind, Job.perform,
        bind_pure_unit]
  | trace o =>
    simp only [Task.perform, TraceOptions.perform, prepare, bind_assoc, pure_bind, Job.perform,
      Job.work, Task.utility, reduceCtorEq, if_false]
  | freeSpace o =>
    simp only [Task.perform, FreeSpaceOptions.perform, prepare, bind_assoc, pure_bind, Job.perform,
      Job.work, Task.utility, reduceCtorEq, if_false]

theorem Task.works_prepare (c : Context) (task : Task) : Works (task.prepare c) := by
  have target : Works c.target := Works.read.bind fun _ => .pure _
  cases task with
  | snapshot o =>
    exact (Snapshot.works_requireDirectory _).bind fun _ => target.bind fun _ => .pure _
  | monitor o =>
    exact (Works.ofExcept _).bind fun _ => target.bind fun _ => Works.read.bind fun _ => .pure _
  | report o =>
    simp only [prepare]
    split
    · exact target.bind fun _ => .pure _
    · have script : Works (writeScript c o.script) :=
        (Works.ofExcept _).bind fun _ => target.bind fun _ => (Works.ofFault _).bind fun _ =>
          (Works.ofFault _).bind fun _ => .note rfl
      exact script.bind fun _ => .pure _
  | trace o => exact (Works.ofExcept _).bind fun _ => target.bind fun _ => .pure _
  | freeSpace o => exact (Works.ofExcept _).bind fun _ => target.bind fun _ => .pure _

/-- What a command does before there is a connection. -/
def Invocation.prepare (i : Invocation) : Run (Option (Job i.task.utility)) := do
  let settings ←
    Run.ofExcept (Settings.load (← get).files (← MonadReader.read).environment
      i.general.settingsFile true)
  i.task.prepare ⟨i.general, settings⟩

theorem Invocation.works_prepare (i : Invocation) : Works i.prepare :=
  Works.get.bind fun _ => Works.read.bind fun _ => (Works.ofExcept _).bind fun _ =>
    i.task.works_prepare _

/-- A command is its preparation, and then its job; a failure of either ends the program. -/
theorem Invocation.perform_eq (i : Invocation) :
    i.perform = (do
      Run.note (.logShown i.task.utility.program i.general.logLevel)
      Run.rescue (i.prepare >>= Job.perform) endWith) := by
  simp only [Invocation.perform, Invocation.prepare, Task.perform_eq, bind_assoc]

end PgVitals
