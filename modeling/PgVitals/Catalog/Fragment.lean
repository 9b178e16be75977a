import PgVitals.Release
/-!
# Fragments of queries

A fragment is a piece of SQL that servers understand from one release on, and perhaps only up to
another. Where a piece changed between releases, its fragments are listed newest first, and the
first one that applies is used.
-/

namespace PgVitals.Catalog

/-- A piece of SQL for the releases from `since` up to, but without, `before`. -/
structure Fragment where
  sql : String
  since : Release := Release.always
  before : Option Release := none
deriving DecidableEq, Inhabited

/-- Whether a server of this release understands the fragment. -/
def Fragment.applies (f : Fragment) (release : Release) : Bool :=
  release.atLeast f.since &&
    (match f.before with
      | some before => !release.atLeast before
      | none => true)

/-- The first fragment that applies. -/
def applicable? (fragments : List Fragment) (release : Release) : Option Fragment :=
  fragments.find? fun f => f.applies release

end PgVitals.Catalog
