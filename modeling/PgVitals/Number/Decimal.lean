import PgVitals.Number.Fixed
/-!
# Decimals of any precision

A decimal keeps its sign, every digit it was written with, and its exponent, so that `1.50` and
`1.5` are different texts of one number.

* `Decimal` is a decimal number, or one of the three values that are none.
* `Decimal.text` is its text: positional while the exponent is not positive and the first digit
  stands close to the point, exponential otherwise.
* `Decimal.truncate` is its whole part, and `Decimal.fixedText` the number rounded to some places, a
  half to the even neighbour.

There is no arithmetic of decimals here: what is computed is computed with whole numbers or doubles
that they are turned into. The note that a value which is no number may carry is kept, as it is part
of its text.
-/

namespace PgVitals.Number

/-- A decimal number, or one of the three values that are none. -/
inductive Decimal where
  /-- The number `± coefficient · 10 ^ exponent`. -/
  | finite (negative : Bool) (coefficient : Nat) (exponent : Int)
  | infinite (negative : Bool)
  /-- No number, with a note that is one; the note zero is not written. -/
  | nan (negative : Bool) (payload : Nat)
  /-- The same, and nothing can be calculated with it. -/
  | signalling (negative : Bool) (payload : Nat)
deriving DecidableEq

namespace Decimal

/-- The sign in front of a decimal. -/
def sign (negative : Bool) : List Char := if negative then ['-'] else []

/-- A coefficient and exponent: positional while the exponent is not positive and the first digit
stands no further than six places after the point, exponential otherwise. -/
def finiteText (coefficient : Nat) (exponent : Int) : List Char :=
  let ds := digits coefficient
  let point : Int := ds.length + exponent
  if exponent ≤ 0 ∧ -6 < point then
    if exponent = 0 then ds
    else if point ≤ 0 then '0' :: '.' :: List.replicate (-point).toNat '0' ++ ds
    else ds.take point.toNat ++ '.' :: ds.drop point.toNat
  else
    let rest := ds.drop 1
    let e := point - 1
    ds.take 1 ++ (if rest.isEmpty then [] else '.' :: rest) ++
      'E' :: (if e < 0 then '-' else '+') :: digits e.natAbs

/-- The note behind the word for no number. -/
def payloadText (payload : Nat) : List Char := if payload = 0 then [] else digits payload

/-- The text of a decimal. -/
def text : Decimal → String
  | finite negative coefficient exponent =>
    String.ofList (sign negative ++ finiteText coefficient exponent)
  | infinite negative => String.ofList (sign negative ++ "Infinity".toList)
  | nan negative payload => String.ofList (sign negative ++ "NaN".toList ++ payloadText payload)
  | signalling negative payload =>
    String.ofList (sign negative ++ "sNaN".toList ++ payloadText payload)

/-- Whether a decimal is zero. -/
def isZero : Decimal → Bool
  | finite _ coefficient _ => coefficient == 0
  | _ => false

/-- The numerator and denominator of a magnitude. -/
def fraction (coefficient : Nat) (exponent : Int) : Nat × Nat :=
  (coefficient * tenTo exponent.toNat, tenTo (-exponent).toNat)

/-- The whole part of a number, cut towards zero. -/
def truncate (negative : Bool) (coefficient : Nat) (exponent : Int) : Int :=
  let (num, den) := fraction coefficient exponent
  let whole : Int := num / den
  if negative then -whole else whole

/-- A number rounded to some places, a half to the even neighbour. -/
def fixedText (places : Nat) : Decimal → String
  | finite negative coefficient exponent =>
    let (num, den) := fraction coefficient exponent
    let n := roundHalfEven (num * tenTo places) den
    String.ofList (sign negative ++ withPlaces places n)
  | other => other.text

end Decimal

end PgVitals.Number
