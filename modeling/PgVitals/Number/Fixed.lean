import PgVitals.Number.Shortest
/-!
# Doubles with a fixed number of digits

The exact value of the double is rounded to the wanted digits, and a half goes to the even
neighbour.
-/

namespace PgVitals.Number

/-- A multiple of `10 ^ -places` in positional form. -/
def withPlaces (places n : Nat) : List Char :=
  if places = 0 then digits n
  else
    let text := paddedDigits (places + 1) n
    let whole := text.length - places
    text.take whole ++ '.' :: text.drop whole

/-- The text of a double that is no finite number. -/
def specialText (negative : Bool) (nan : Bool) : String :=
  if nan then "nan" else if negative then "-inf" else "inf"

/-- A minus sign, or nothing. -/
def signText (negative : Bool) : List Char := if negative then ['-'] else []

/-- A double with a fixed number of digits after the point. -/
def fixedText (places : Nat) (x : Float) : String :=
  match Binary.ofFloat x with
  | .nan => specialText false true
  | .infinite negative => specialText negative false
  | .finite d =>
    let n := roundHalfEven (d.numerator * tenTo places) d.denominator
    String.ofList (signText d.negative ++ withPlaces places n)

/-- A magnitude rounded to `count` significant digits: the digits as a number, and the point. -/
def significant (count num den : Nat) : Nat × Int :=
  let point := decimalPoint num den
  let shift := (count : Int) - point
  let n := roundHalfEven (num * tenTo shift.toNat) (den * tenTo (-shift).toNat)
  if n == tenTo count then (tenTo (count - 1), point + 1) else (n, point)

/-- A double with up to six significant digits and no zeros at the end, exponential when the first
digit stands before `1e-4` or after `1e5`. -/
def generalText (x : Float) : String :=
  match Binary.ofFloat x with
  | .nan => specialText false true
  | .infinite negative => specialText negative false
  | .finite d =>
    let body :=
      if d.mantissa == 0 then ['0']
      else
        let (n, point) := significant 6 d.numerator d.denominator
        let kept := dropTrailingZeros (digits n)
        if -4 < point ∧ point ≤ 6 then
          if point ≤ 0 then '0' :: '.' :: List.replicate (-point).toNat '0' ++ kept
          else
            let whole := point.toNat
            let rest := kept.drop whole
            kept.take whole ++ List.replicate (whole - kept.length) '0' ++
              (if rest.isEmpty then [] else '.' :: rest)
        else exponential ⟨kept, point⟩
    String.ofList (signText d.negative ++ body)

/-- The double nearest to `num / tenTo places`. -/
def floatOfScaled (negative : Bool) (num places : Nat) : Float :=
  let magnitude := Float.ofScientific num true places
  if negative then -magnitude else magnitude

/-- The double nearest to the value rounded to a number of decimal places. -/
def roundPlaces (places : Nat) (x : Float) : Float :=
  match Binary.ofFloat x with
  | .nan => x
  | .infinite _ => x
  | .finite d =>
    floatOfScaled d.negative (roundHalfEven (d.numerator * tenTo places) d.denominator) places

end PgVitals.Number
