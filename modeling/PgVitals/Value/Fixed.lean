import PgVitals.Value
import PgVitals.Number.Fixed
/-!
# Values with a fixed number of places
-/

namespace PgVitals.Value

open PgVitals.Number

/-- A number with so many digits after the point. A moment takes the wish for its own format, in
which nothing stands for a part of it. -/
def fixedText (places : Nat) : Value → Except Fault String
  | bool b => .ok (Number.fixedText places (if b then 1.0 else 0.0))
  | int n =>
    match floatOfInt n with
    | some x => .ok (Number.fixedText places x)
    | none => .error .integerTooLarge
  | float x => .ok (Number.fixedText places x)
  | decimal d => .ok (d.fixedText places)
  | timestamp _ => .ok ("." ++ natText places ++ "f")
  | date _ => .ok ("." ++ natText places ++ "f")
  | text _ => .error .placesOfText
  | _ => .error .wrongKind

end PgVitals.Value
