/-!
# Utilities

The suite is made of five utilities. Each is a command of the suite and a program of its own.
-/

namespace PgVitals

/-- A utility of the suite. -/
inductive Utility where
  /-- Appends what every statistics view holds to files. -/
  | snapshot
  /-- Prints how the statistics of one domain change. -/
  | monitor
  /-- Reports on a cluster. -/
  | report
  /-- Traces the wait events of a process. -/
  | trace
  /-- Shows the free space of a relation. -/
  | freeSpace
deriving DecidableEq

namespace Utility

/-- Every utility, in the order of the help. -/
def all : List Utility := [snapshot, monitor, report, trace, freeSpace]

/-- The word that selects a utility on the command line of the suite. -/
def word : Utility → String
  | snapshot => "csvstat"
  | monitor => "stat"
  | report => "report"
  | trace => "waitevent"
  | freeSpace => "fsm"

/-- The name of a utility as a program of its own. -/
def program : Utility → String
  | snapshot => "pgcsvstat"
  | monitor => "pgstat"
  | report => "pgreport"
  | trace => "pgwaitevent"
  | freeSpace => "pgdisplay"

/-- What a utility does, for the help. -/
def summary : Utility → String
  | snapshot => "Append a snapshot of every statistics view to CSV files."
  | monitor => "Print vmstat-like per-interval deltas of one statistics domain."
  | report => "Print a report on the cluster, or a SQL script producing it."
  | trace => "Trace the wait events of every query run by a backend."
  | freeSpace => "Display the free space map of a relation as colored cells."

/-- The utility that is a program of this name. -/
def ofProgram? (name : String) : Option Utility := all.find? fun u => u.program == name

end Utility

/-- The name of the program that holds the whole suite. -/
def suiteProgram : String := "pgstats"

/-- What the suite does, for the help. -/
def suiteSummary : String := "Statistics, reporting and tracing utilities for PostgreSQL."

/-- A program and its version. -/
def versionOf (program : String) : String := program ++ " 1.3.0"

end PgVitals
