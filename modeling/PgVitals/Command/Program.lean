import PgVitals.Command.Line
import PgVitals.Command.Tasks
import PgVitals.Settings.Load
import PgVitals.Session.Terminal
/-!
# Programs

A program reads its command line and its settings, does its task, and ends with an exit status.
Failures are told on standard error, but for two: a user who ends the run knows why, and that the
traced process is gone has been said already.

* `readProgram` is what the command line of the program of a name says, and `runProgram` runs it.
  The suite shows its help when it has no command.
* `Invocation.perform` loads the settings and does the task.
* `endWith` ends the program after a failure. Faults, and errors of the driver that nobody has
  classified, go on as they are.

An exit status is a failure like others here, so that it passes the teardowns on its way out.
-/

namespace PgVitals

open PgVitals.Arguments

/-- Ends the program with a status. -/
def Run.exit {α : Type} (status : Int) : Run α := Run.fail (.exit status)

/-- Ends the program after a failure, which the user is told about if need be. Faults go on. -/
def endWith (failure : Failure) : Run Unit := do
  match failure with
  | .interrupted _ | .targetGone _ => Run.exit failure.exitStatus
  | failure =>
    if failure.isReported then
      Run.report failure
      Run.exit failure.exitStatus
    else Run.fail failure

/-- The weight from which on log records show. -/
def GeneralOptions.logLevel (o : GeneralOptions) : LogLevel := if o.verbose then .info else .warning

/-- Does what a command line says. -/
def Invocation.perform (i : Invocation) : Run Unit := do
  Run.note (.logShown i.task.utility.program i.general.logLevel)
  let work : Run Unit := do
    let settings ←
      Run.ofExcept (Settings.load (← get).files (← read).environment i.general.settingsFile true)
    i.task.perform ⟨i.general, settings⟩
  Run.rescue work endWith

/-- Ends the program when its command line gives it nothing to do. -/
def endReading : Ending → Run Unit
  | .shown text => do
    Run.note (.printed text)
    Run.exit 0
  | .refused usage refusal => do
    Run.note (.complained usage)
    endWith (.config (.arguments refusal.message))

/-- What the command line of the program of a name says: of a utility, or of the suite, which can be
run without a command. -/
def readProgram (columns : Int) (name : String) (texts : List String) :
    Except Ending (Option Invocation) :=
  match Utility.ofProgram? name with
  | some u => some <$> CommandLine.readUtility columns u name texts
  | none => CommandLine.readSuite columns texts

/-- Runs the program of a name. The suite shows its help when it has no command. -/
def runProgram (name : String) (texts : List String) : Run Unit := do
  let columns := Terminal.columns (← read).environment
  match readProgram columns name texts with
  | .ok (some invocation) => invocation.perform
  | .ok none =>
    Run.note (.printed (CommandLine.suite.helpText columns))
    Run.exit 1
  | .error ending => endReading ending

end PgVitals
