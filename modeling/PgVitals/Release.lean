import PgVitals.Number.Digits
/-!
# Server releases

A release is a major and a minor number, ordered by the major first. Every query is gated on the
release of the server it is sent to.
-/

namespace PgVitals

open PgVitals.Number

/-- A release of the server. -/
structure Release where
  major : Int
  minor : Int
deriving DecidableEq, Inhabited

namespace Release

/-- The release before every other: what holds since then holds always. -/
def always : Release := ⟨0, 0⟩

/-- Whether this release is `required` or a newer one. -/
def atLeast (r required : Release) : Bool :=
  required.major < r.major || (r.major == required.major && required.minor ≤ r.minor)

instance : LE Release := ⟨fun a b => a.major < b.major ∨ (a.major = b.major ∧ a.minor ≤ b.minor)⟩

instance : LT Release := ⟨fun a b => a.major < b.major ∨ (a.major = b.major ∧ a.minor < b.minor)⟩

instance (a b : Release) : Decidable (a ≤ b) :=
  inferInstanceAs (Decidable (a.major < b.major ∨ (a.major = b.major ∧ a.minor ≤ b.minor)))

instance (a b : Release) : Decidable (a < b) :=
  inferInstanceAs (Decidable (a.major < b.major ∨ (a.major = b.major ∧ a.minor < b.minor)))

/-- Major and minor, joined by a point. -/
def text (r : Release) : String := intText r.major ++ "." ++ intText r.minor

/-- How a requirement names a release: from 10 on a minor number of zero is left out. -/
def label (r : Release) : String :=
  if 10 ≤ r.major ∧ r.minor = 0 then intText r.major else r.text

end Release

end PgVitals
