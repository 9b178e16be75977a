import PgVitals.Release
import Mathlib.Data.Prod.Lex
/-!
# The order of releases

Releases are ordered like pairs, by the major number first. A server is at least of some release
when that release is not behind its own in this order.

* `Release.le_iff` and `Release.lt_iff` unfold the order into comparisons of numbers, and are what
  `omega` is given elsewhere.
* `Release.atLeast_iff` says that the test of the program is this order.
* `Release.le_trans`, `Release.not_le` and `Release.lt_irrefl` make it a linear order.
* `Release.le_iff_toLex` ties it to the lexicographic order on pairs of the library.

Nothing is known of the numbers themselves: since release 10 the minor number counts corrections,
and before that it belonged to the major version. The order is right for both.
-/

namespace PgVitals.Release

variable {a b c : Release}

theorem le_iff : a ≤ b ↔ a.major < b.major ∨ (a.major = b.major ∧ a.minor ≤ b.minor) := Iff.rfl

theorem lt_iff : a < b ↔ a.major < b.major ∨ (a.major = b.major ∧ a.minor < b.minor) := Iff.rfl

theorem atLeast_iff : a.atLeast b = true ↔ b ≤ a := by
  rw [le_iff]
  simp only [atLeast, Bool.or_eq_true, Bool.and_eq_true, decide_eq_true_eq, beq_iff_eq]
  omega

theorem le_refl (a : Release) : a ≤ a := by
  rw [le_iff]
  omega

theorem le_trans (hab : a ≤ b) (hbc : b ≤ c) : a ≤ c := by
  rw [le_iff] at hab hbc ⊢
  omega

theorem not_le : ¬ a ≤ b ↔ b < a := by
  rw [le_iff, lt_iff]
  omega

theorem le_of_lt (h : a < b) : a ≤ b := by
  rw [lt_iff] at h
  rw [le_iff]
  omega

theorem lt_irrefl (a : Release) : ¬ a < a := by
  rw [lt_iff]
  omega

/-- The order is the lexicographic one on pairs of numbers. -/
theorem le_iff_toLex : a ≤ b ↔ toLex (a.major, a.minor) ≤ toLex (b.major, b.minor) := by
  rw [le_iff, Prod.Lex.toLex_le_toLex]

end PgVitals.Release
