import PgVitals.Number.Power
/-!
# Decimal digits of whole numbers
-/

namespace PgVitals.Number

/-- The decimal digits of a natural, most significant first, without leading zeros. -/
def digits (n : Nat) : List Char := Nat.toDigits 10 n

/-- The text of a natural. -/
def natText (n : Nat) : String := String.ofList (digits n)

/-- The text of a whole number: a minus sign stands in front of a negative one. -/
def intText (n : Int) : String :=
  if n < 0 then String.ofList ('-' :: digits n.natAbs) else natText n.natAbs

/-- The most digits that a whole number is read or written with. -/
def digitLimit : Nat := 4300

/-- The first natural that has too many digits. -/
def digitBound : Nat := tenTo digitLimit

/-- Whether a whole number does not have too many digits to be written. -/
def isWritable (n : Int) : Bool := n.natAbs < digitBound

/-- The text of a natural with zeros in front, up to the given width. -/
def paddedDigits (width n : Nat) : List Char :=
  List.replicate (width - (digits n).length) '0' ++ digits n

end PgVitals.Number
