import PgVitals.Number.Power
/-!
# The exact value of a floating point number

A finite double is a whole number times a power of two. Everything that prints or compares doubles
starts from this exact value, as a fraction of two naturals.
-/

namespace PgVitals.Number

/-- A sign, and a magnitude `mantissa · 2 ^ exponent`. Zero keeps its sign. -/
structure Dyadic where
  negative : Bool
  mantissa : Nat
  exponent : Int
deriving DecidableEq

/-- What a double holds. -/
inductive Binary where
  | nan
  | infinite (negative : Bool)
  | finite (value : Dyadic)
deriving DecidableEq

/-- Reads the fields of the 64 bit word: sign, 11 bits of exponent, 52 bits of fraction. -/
def Binary.ofBits (bits : UInt64) : Binary :=
  let n := bits.toNat
  let negative := n / twoTo 63 == 1
  let exponent : Nat := n / twoTo 52 % twoTo 11
  let fraction : Nat := n % twoTo 52
  if exponent == 2047 then
    if fraction == 0 then .infinite negative else .nan
  else if exponent == 0 then .finite ⟨negative, fraction, -1074⟩
  else .finite ⟨negative, twoTo 52 + fraction, exponent - 1075⟩

/-- The content of a double. -/
def Binary.ofFloat (x : Float) : Binary := Binary.ofBits x.toBits

/-- The numerator of the magnitude. -/
def Dyadic.numerator (d : Dyadic) : Nat := d.mantissa * twoTo d.exponent.toNat

/-- The denominator of the magnitude. -/
def Dyadic.denominator (d : Dyadic) : Nat := twoTo (-d.exponent).toNat

/-- The whole part of the value, cut towards zero. -/
def Dyadic.truncate (d : Dyadic) : Int :=
  let whole : Int := d.numerator / d.denominator
  if d.negative then -whole else whole

/-- A quotient rounded to the nearest natural; a half goes to the even neighbour. -/
def roundHalfEven (num den : Nat) : Nat :=
  let whole := num / den
  let rest := 2 * (num % den)
  if rest < den then whole
  else if den < rest then whole + 1
  else if whole % 2 = 0 then whole else whole + 1

end PgVitals.Number
