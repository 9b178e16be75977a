/-!
# Padding

Texts brought to a width in characters. A text that is already wide enough is left as it is.
-/

namespace PgVitals.Text

/-- The number of characters. -/
def width (s : String) : Nat := s.toList.length

/-- `n` copies of a character. -/
def repeated (n : Nat) (c : Char) : String := String.ofList (List.replicate n c)

/-- Padded on the left with blanks, so that the text ends at the width. -/
def padLeft (s : String) (n : Nat) : String :=
  String.ofList (List.replicate (n - s.toList.length) ' ' ++ s.toList)

/-- Padded on the right with `fill`, so that the text begins its column. -/
def padRightWith (fill : Char) (s : String) (n : Nat) : String :=
  String.ofList (s.toList ++ List.replicate (n - s.toList.length) fill)

/-- Padded on the right with blanks. -/
def padRight (s : String) (n : Nat) : String := padRightWith ' ' s n

/-- The padding in front of a centred text: half of the total, and of an odd total the larger half
exactly when the width is odd too. -/
def centerMargin (size n : Nat) : Nat :=
  let total := n - size
  total / 2 + (if total % 2 = 1 ∧ n % 2 = 1 then 1 else 0)

/-- Padded on both sides with `fill`. -/
def center (fill : Char) (s : String) (n : Nat) : String :=
  let left := centerMargin s.toList.length n
  String.ofList
    (List.replicate left fill ++ s.toList ++
      List.replicate (n - s.toList.length - left) fill)

end PgVitals.Text
