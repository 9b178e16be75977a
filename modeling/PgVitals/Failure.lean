import PgVitals.Release
import PgVitals.Fault
import PgVitals.Domain
/-!
# Failures

Every way in which a run ends other than by returning. A failure names its cause; the wording and
the exit status follow from it.

* `DriverError` is an error of the database driver: its kind, its text, the server's own message and
  the SQLSTATE, where there are any.
* `Failure` lists how a run fails. The causes in it are data, with what their wording needs:
  `ConfigCause`, `ConnectionCause`, `ReleaseCause`, `SinkCause`, `InterruptCause`.
* `Failure.message` is the wording, and `Failure.exitStatus` the status of those that a utility
  reports. `Failure.isReported` tells these from faults, from errors of the driver that nobody has
  classified, and from the end of the program.

A raw error of the driver is a failure, too, since it can get out of a part of the program that does
not classify it. That it never gets out of a utility is a theorem, in `Proofs/Refusals`.
-/

namespace PgVitals

open PgVitals.Text PgVitals.Number

/-! ## Errors of the database driver -/

/-- What the driver reports an error as. -/
inductive DriverErrorKind where
  /-- The statement was cancelled. -/
  | cancelled
  /-- The connection cannot be used. -/
  | interface
  /-- The connection or the server does not work. -/
  | operational
  /-- Any other refusal. -/
  | other
deriving DecidableEq

/-- An error of the database driver: its text, the server's own message and the SQLSTATE, where
there are any. -/
structure DriverError where
  kind : DriverErrorKind
  text : String
  detail : Option String
  code : Option String
deriving DecidableEq

/-! ## Causes -/

/-- What is wrong with the options of a run. -/
inductive ConfigCause where
  /-- The command line, in the words of the command line reader. -/
  | arguments (text : String)
  | missingDirectory (shown : String)
  | unknownStatistic (shown : String)
  | noFilter (domain : Domain)
  | notPositive (option : String)
  | negativeInterval
  | noGroups
  | freeSpaceExtensionMissing
  | statementsExtensionMissing
  | releaseNeeded (domain : Domain)
  | schemaExists
  | fileNotFound (path : String)
  | fileMalformed (path : String)
  | fileNotMapping (path : String)
  | sectionNotMapping (name : String)
deriving DecidableEq

/-- Why a connection could not be made or was lost. -/
inductive ConnectionCause where
  | refused (text : String)
  | notConfigured (text : String)
  | lost (text : String)
deriving DecidableEq

/-- Why the release of the server is not known. -/
inductive ReleaseCause where
  | empty
  | unreadable (text : String)
  | notMajorMinor (quoted : String)
  | queryFailed (text : String)
  | noRow
deriving DecidableEq

/-- What went wrong with a file of samples. -/
inductive SinkCause where
  | notOpened (path reason : String)
  | notWritten (path reason : String)
deriving DecidableEq

/-- What interrupted a run. -/
inductive InterruptCause where
  | signal
  | cancelledQuery
deriving DecidableEq

/-- How a run fails. -/
inductive Failure where
  | config (cause : ConfigCause)
  | connection (cause : ConnectionCause)
  /-- The server refused a statement. -/
  | query (message sql : String) (code : Option String)
  | releaseUnknown (cause : ReleaseCause)
  | releaseTooLow (feature : String) (required : Release)
  | sink (cause : SinkCause)
  /-- The traced session is gone; its process, where it is known. -/
  | targetGone (pid : Option Int)
  | interrupted (cause : InterruptCause)
  /-- A value could not be used. -/
  | fault (cause : Fault)
  /-- An error of the driver that nothing has classified. -/
  | driver (error : DriverError)
  /-- The program was told to end with this status. -/
  | exit (status : Int)
deriving DecidableEq

/-! ## Wording -/

/-- The wording of a cause. -/
def ConfigCause.message : ConfigCause → String
  | arguments text => text
  | missingDirectory shown => "directory " ++ shown ++ " does not exist"
  | unknownStatistic shown => "unknown statistic: " ++ shown
  | noFilter domain => "the " ++ domain.name ++ " statistic does not accept a filter"
  | notPositive option => option ++ " must be a positive integer"
  | negativeInterval => "interval must not be negative"
  | noGroups => "number of groups must be a positive integer"
  | freeSpaceExtensionMissing => "pg_freespacemap is not installed in this database."
  | statementsExtensionMissing => "pg_stat_statements is not installed in this database."
  | releaseNeeded domain => "a server version is needed for " ++ domain.name
  | schemaExists =>
    "schema pgreport already exists; drop it or run pgreport in another database"
  | fileNotFound path => "Config file not found: " ++ path
  | fileMalformed path => "Invalid config file " ++ path ++ ": <yaml error>"
  | fileNotMapping path => "Invalid config file " ++ path ++ ": expected a mapping"
  | sectionNotMapping name => "Config section '" ++ name ++ "' must be a mapping"

/-- The wording of a cause. -/
def ConnectionCause.message : ConnectionCause → String
  | refused text => text
  | notConfigured text => "could not configure the session: " ++ text
  | lost text => "connection lost: " ++ text

/-- The wording of a cause. -/
def ReleaseCause.message : ReleaseCause → String
  | empty => "empty server version string"
  | unreadable text => "cannot parse server version from " ++ quote text
  | notMajorMinor quoted => "invalid version " ++ quoted ++ ", expected MAJOR.MINOR"
  | queryFailed text => "cannot fetch server version: " ++ text
  | noRow => "SELECT version() returned no row"

/-- The wording of a cause. -/
def SinkCause.message : SinkCause → String
  | notOpened path reason => "could not open file " ++ path ++ ": " ++ reason
  | notWritten path reason => "could not write file " ++ path ++ ": " ++ reason

/-- The wording of a cause. -/
def InterruptCause.message : InterruptCause → String
  | signal => "interrupted"
  | cancelledQuery => "query cancelled"

/-- The wording of a failure. -/
def Failure.message : Failure → String
  | config cause => cause.message
  | connection cause => cause.message
  | query message _ _ => message
  | releaseUnknown cause => cause.message
  | releaseTooLow feature required =>
    "You need at least v" ++ required.label ++ " for " ++ feature ++ "."
  | sink cause => cause.message
  | targetGone none => "no more session"
  | targetGone (some pid) => "no more session with PID " ++ intText pid
  | interrupted cause => cause.message
  | fault cause => cause.message.getD ""
  | driver error => error.text
  | exit status => intText status

/-- Whether a failure is one that a utility reports: faults, raw driver errors and the end of the
program are not. -/
def Failure.isReported : Failure → Bool
  | fault _ => false
  | driver _ => false
  | exit _ => false
  | _ => true

/-- The exit status that a reported failure asks for. -/
def Failure.exitStatus : Failure → Int
  | targetGone _ => 2
  | exit status => status
  | _ => 1

end PgVitals
