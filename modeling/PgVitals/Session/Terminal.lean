import PgVitals.Session.Run
import PgVitals.Number.Reading
/-!
# The terminal

The environment tells the size of the terminal in `COLUMNS` and `LINES`. A size that it does not
tell as a positive number is unknown, and an unknown size is a usual one.
-/

namespace PgVitals.Terminal

open PgVitals.Number

/-- A size out of the environment; zero stands for unknown. -/
def sizeOf (setting : Option String) : Int :=
  match setting with
  | none => 0
  | some text =>
    match readInt text with
    | .ok n => n
    | .error _ => 0

/-- A size, or the usual one where it is not positive. -/
def sizeOr (usual : Int) (setting : Option String) : Int :=
  if sizeOf setting ≤ 0 then usual else sizeOf setting

/-- The number of lines of the terminal, usually 23. -/
def rows (environment : String → Option String) : Int := sizeOr 23 (environment "LINES")

/-- The number of columns of the terminal, usually 80. -/
def columns (environment : String → Option String) : Int := sizeOr 80 (environment "COLUMNS")

end PgVitals.Terminal
