/-!
# Classes of characters

A class of characters is a list of inclusive ranges of code points, in increasing order. The modules
beside this one hold the classes the program asks about: decimal digits, blanks, printable
characters and the characters of words.
-/

namespace PgVitals.Text

/-- Inclusive ranges of code points. -/
abbrev Ranges := List (Nat × Nat)

/-- Whether a code point lies in one of the ranges. -/
def Ranges.holds (ranges : Ranges) (code : Nat) : Bool :=
  ranges.any fun range => range.1 ≤ code && code ≤ range.2

/-- The first code point of the range that holds `code`. -/
def Ranges.start? (ranges : Ranges) (code : Nat) : Option Nat :=
  (ranges.find? fun range => range.1 ≤ code && code ≤ range.2).map Prod.fst

end PgVitals.Text
