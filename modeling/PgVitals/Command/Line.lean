import PgVitals.Arguments.Reading
import PgVitals.Command.Invocation
/-!
# Command lines

The grammars of the utilities and of the suite. A utility understands the same arguments as a
program of its own and behind its word on the command line of the suite.

* `generalSwitches` are the options of every utility, and `manual` what each of them adds.
* `readUtility` reads the command line of a utility that is a program of its own, and `readSuite`
  that of the suite, which can be run without a command.
* `Draft` is what is read so far; `invocation` is what it says in the end.

The texts of the help are those that are shown. Which option wins where one is given twice, and what
an abbreviation stands for, is decided by the reading in `Arguments/Reading`.
-/

namespace PgVitals

open PgVitals.Arguments

/-- What is read of a command line: the options of all utilities, and those of one. -/
structure Draft (β : Type) where
  general : GeneralOptions := {}
  own : β

namespace Draft

variable {β : Type}

/-- Changes the options of all utilities. -/
def onGeneral (f : GeneralOptions → GeneralOptions) (d : Draft β) : Draft β :=
  { d with general := f d.general }

/-- Changes the options of one utility. -/
def onOwn (f : β → β) (d : Draft β) : Draft β := { d with own := f d.own }

end Draft

namespace CommandLine

open Draft

/-! ## Options -/

/-- A whole number above zero as a value. -/
def count (text : String) : Except Complaint Value := .int <$> positive text

/-- A number of seconds as a value. -/
def duration (text : String) : Except Complaint Value := .float <$> seconds text

/-- The option that shows the help. -/
def helpSwitch {α : Type} : Switch α :=
  { names := ["--help", "-?"], effect := .help, help := "Show this help, then exit" }

/-- The names of the option that shows the version. -/
def versionNames : List String := ["--version", "-V"]

/-- The options of every utility. -/
def generalSwitches (β : Type) : List (Switch (Draft β)) := [
  helpSwitch,
  { names := versionNames, effect := .version
    help := "Output version information, then exit" },
  { names := ["--verbose", "-v"]
    effect := .mark (onGeneral fun o => { o with verbose := true })
    help := "Print progress" },
  { names := ["--config"]
    effect := .text "CONFIG" fun s => onGeneral fun o => { o with settingsFile := s }
    help := "Path to a pgstats.yaml file" },
  { names := ["-h", "--host"], chapter := .connection
    effect := .text "HOST" fun s => onGeneral fun o => { o with host := s }
    help := "Database server host or socket directory" },
  { names := ["-p", "--port"], chapter := .connection
    effect := .reading "PORT" count fun n => onGeneral fun o => { o with port := n }
    help := "Database server port" },
  { names := ["-U", "--user"], chapter := .connection
    effect := .text "USER" fun s => onGeneral fun o => { o with user := s }
    help := "Database user name" },
  { names := ["-d", "--dbname"], chapter := .connection
    effect := .text "DBNAME" fun s => onGeneral fun o => { o with database := s }
    help := "Database name to connect to" }]

/-- The options of snapshots. -/
def snapshotSwitches : List (Switch (Draft SnapshotOptions)) := [
  { names := ["-D", "--directory"]
    effect := .text "DIRECTORY" fun s => onOwn fun o => { o with directory := s }
    help := "Output directory (default: ./)" },
  { names := ["-q", "--quiet"]
    effect := .mark (onOwn fun o => { o with quiet := true })
    help := "Do not write the CSV header nor the detected release" }]

/-- The options of the monitor. -/
def monitorSwitches : List (Switch (Draft MonitorOptions)) := [
  { names := ["-s", "--stat"]
    effect := .text "STAT" fun s => onOwn fun o => { o with subject := s }
    help := "Statistics domain (default: bgwriter)" },
  { names := ["-f", "--filter"]
    effect := .text "FILTER" fun s => onOwn fun o => { o with filter := s }
    help := "Include only this object" },
  { names := ["-H", "--human-readable"]
    effect := .mark (onOwn fun o => { o with humanReadable := true })
    help := "Print byte counters in human readable units" },
  { names := ["-n", "--no-redisplay-header"]
    effect := .mark (onOwn fun o => { o with singleHeader := true })
    help := "Do not redisplay the header" }]

/-- The operands of the monitor. -/
def monitorOperands : List (Operand (Draft MonitorOptions)) := [
  .atMostOne "delay" "Seconds between samples" fun s d =>
    (fun n => d.onOwn fun o => { o with delay := some n }) <$> positive s,
  .atMostOne "count" "Number of samples" fun s d =>
    (fun n => d.onOwn fun o => { o with count := some n }) <$> positive s]

/-- The options of reports. -/
def reportSwitches : List (Switch (Draft ReportOptions)) := [
  { names := ["-s", "--script"]
    effect := .text "VERSION" fun s => onOwn fun o => { o with script := s }
    help := "Print a SQL script for a MAJOR.MINOR server instead of running the report" }]

/-- The options of traces. -/
def traceSwitches : List (Switch (Draft TraceOptions)) := [
  { names := ["-g", "--include-leader-workers"]
    effect := .mark (onOwn fun o => { o with workers := true })
    help := "Include the wait events of the leader and its parallel workers" },
  { names := ["-i", "--interval"]
    effect := .reading "INTERVAL" duration fun x => onOwn fun o => { o with interval := x }
    help := "Sampling interval in seconds (default: 1)" }]

/-- The operands of traces. -/
def traceOperands : List (Operand (Draft TraceOptions)) := [
  .one "pid" "PID of the backend to trace" fun s d =>
    (fun n => d.onOwn fun o => { o with pid := n }) <$> process s]

/-- The options of the display of free space. -/
def freeSpaceSwitches : List (Switch (Draft FreeSpaceOptions)) := [
  { names := ["-t", "--table"], required := true
    effect := .text "TABLE" fun s => onOwn fun o => { o with relation := s }
    help := "Relation to display" },
  { names := ["-G", "--groups"]
    effect := .reading "GROUPS" count fun n => onOwn fun o => { o with groups := n }
    help := "Number of block groups (default: 20)" }]

/-! ## Utilities -/

/-- How the command line of a utility is read: what it can be given beside the options of all
utilities, and what becomes of that. -/
structure Manual where
  Own : Type
  switches : List (Switch (Draft Own))
  operands : List (Operand (Draft Own))
  start : Own
  task : Own → Task

/-- How the command line of each utility is read. -/
def manual : Utility → Manual
  | .snapshot => ⟨SnapshotOptions, snapshotSwitches, [], {}, .snapshot⟩
  | .monitor => ⟨MonitorOptions, monitorSwitches, monitorOperands, {}, .monitor⟩
  | .report => ⟨ReportOptions, reportSwitches, [], {}, .report⟩
  | .trace => ⟨TraceOptions, traceSwitches, traceOperands, {}, .trace⟩
  | .freeSpace => ⟨FreeSpaceOptions, freeSpaceSwitches, [], {}, .freeSpace⟩

namespace Manual

/-- What is read before any argument is. -/
def blank (m : Manual) : Draft m.Own := ⟨{}, m.start⟩

/-- The grammar of a utility that is run under a name and shows a version. -/
def grammar (m : Manual) (program version summary : String) : Grammar (Draft m.Own) :=
  { program := program
    version := version
    summary := summary
    switches := generalSwitches m.Own ++ m.switches
    operands := m.operands }

/-- What a command line says. -/
def invocation (m : Manual) (d : Draft m.Own) : Invocation := ⟨d.general, m.task d.own⟩

end Manual

/-- Reads the command line of a utility that is a program of its own. -/
def readUtility (columns : Int) (u : Utility) (program : String) (texts : List String) :
    Except Ending Invocation := do
  let m := manual u
  let draft ← (m.grammar program (versionOf program) u.summary).readAll columns texts m.blank
  return m.invocation draft

/-! ## The suite -/

/-- What is read of the suite's command line: the command, if there is one, and what it does not
take. -/
structure Chosen where
  invocation : Option Invocation := none
  leftover : List String := []

/-- The word of a utility on the command line of the suite. -/
def choiceOf (u : Utility) : Choice Chosen :=
  { word := u.word
    help := u.summary
    read := fun columns texts _ => do
      let m := manual u
      let grammar := m.grammar (suiteProgram ++ " " ++ u.word) (versionOf u.program) u.summary
      let (draft, leftover) ← grammar.readSome columns texts m.blank
      return ⟨some (m.invocation draft), leftover⟩ }

/-- The grammar of the suite. -/
def suite : Grammar Chosen :=
  { program := suiteProgram
    version := versionOf suiteProgram
    summary := suiteSummary
    switches := [
      helpSwitch,
      { names := versionNames, effect := .version
        help := "show program's version number and exit" }]
    operands := [.command "command" "Available commands" (Utility.all.map choiceOf)] }

/-- Reads the command line of the suite. -/
def readSuite (columns : Int) (texts : List String) : Except Ending (Option Invocation) := do
  let (chosen, leftover) ← suite.readSome columns texts {}
  suite.refuseLeftover columns chosen.invocation (leftover ++ chosen.leftover)

end CommandLine

end PgVitals
