import PgVitals.Catalog.Snapshot
/-!
# What a snapshot dumps

Which views a server provides depends on its release, on the rights of the user and on an extension.
A view that cannot be dumped is skipped for the first of these reasons.

* `Capabilities` is what the server grants beyond its release.
* `skipReason?` is the first reason to skip a view, and `SkipReason.message` its wording.
* `plan` are the views that are left, in the order of the catalog, and `skipNotes` one note for each
  of the others.
-/

namespace PgVitals.Snapshot

open PgVitals.Catalog

/-- What the server grants beyond its release. -/
structure Capabilities where
  superuser : Bool
  statements : Bool
deriving DecidableEq

/-- Why a view is skipped. -/
inductive SkipReason where
  | needsRelease (since : Release)
  | needsSuperuser
  | needsStatements
deriving DecidableEq

/-- The wording of a reason. -/
def SkipReason.message : SkipReason → String
  | needsRelease since => "needs at least " ++ since.text
  | needsSuperuser => "needs a superuser"
  | needsStatements => "pg_stat_statements is not installed"

/-- The first reason to skip a view, if there is one. -/
def skipReason? (release : Release) (granted : Capabilities) (t : Template) : Option SkipReason :=
  if !t.supports release then some (.needsRelease t.since)
  else if Catalog.Snapshot.needsSuperuser t.domain && !granted.superuser then some .needsSuperuser
  else if Catalog.Snapshot.needsStatementsExtension t.domain && !granted.statements then
    some .needsStatements
  else none

/-- The views to dump, in order. -/
def plan (release : Release) (granted : Capabilities) (templates : List Template) :
    List Template :=
  templates.filter fun t => (skipReason? release granted t).isNone

/-- One note for each view that is skipped, in order. -/
def skipNotes (release : Release) (granted : Capabilities) (templates : List Template) :
    List String :=
  templates.filterMap fun t =>
    (skipReason? release granted t).map fun reason =>
      "Skipping " ++ t.name ++ ": " ++ reason.message

end PgVitals.Snapshot
