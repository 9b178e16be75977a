import PgVitals.Number.Dyadic
import PgVitals.Number.Digits
/-!
# The shortest digits of a double

A double is written with the fewest significant digits that read back as the same double, and among
those with the digits nearest to it. The candidates with `n` digits are the two neighbours of the
value on the grid of `n` digit decimals; the first `n` for which one of them lies within the
interval of numbers that round to the value gives the digits.

* `Dyadic.neighbourhood` is that interval. Below a power of two the grid of doubles is twice as
  fine, so it reaches less far to that side.
* `Neighbourhood.nearest?` is the better of the two candidates, and `Neighbourhood.shortestFrom`
  tries growing numbers of digits. Seventeen always suffice, which bounds the recursion.
* `floatText` is the text of a double, positional from `1e-4` up to below `1e16` and exponential
  outside.

Everything is computed with whole numbers, from the exact value of the double. That the text reads
back as the double is not proved here; only which characters are in it is, in
`Proofs/Value/Characters`.
-/

namespace PgVitals.Number

/-- A decimal `0.d₁d₂… · 10 ^ point`. -/
structure Scientific where
  digits : List Char
  point : Int
deriving DecidableEq

/-- The number of times `den` has to be multiplied by ten until it exceeds `num`, counted up to
`fuel`: for `num / den ≥ 1` the number of digits before the point. -/
def digitsBefore : Nat → Nat → Nat → Nat
  | 0, _, _ => 0
  | fuel + 1, num, den => if num < den then 0 else 1 + digitsBefore fuel num (den * 10)

/-- The number of zeros between the point and the first digit of `num / den`. -/
def zerosAfter : Nat → Nat → Nat → Nat
  | 0, _, _ => 0
  | fuel + 1, num, den => if num * 10 < den then 1 + zerosAfter fuel (num * 10) den else 0

/-- The `point` of a positive fraction: `10 ^ (point - 1) ≤ num / den < 10 ^ point`. -/
def decimalPoint (num den : Nat) : Int :=
  if num < den then -(zerosAfter 400 num den : Int) else digitsBefore 400 num den

/-- The magnitudes that round to a double, as `low / scale … high / scale`. -/
structure Neighbourhood where
  low : Nat
  middle : Nat
  high : Nat
  scale : Nat
  closed : Bool

/-- The interval of a positive double. Below a power of two the grid is twice as fine. -/
def Dyadic.neighbourhood (d : Dyadic) : Neighbourhood :=
  let unit := twoTo d.exponent.toNat
  let narrow := d.mantissa == twoTo 52 && d.exponent != -1074
  { low := (4 * d.mantissa - if narrow then 1 else 2) * unit
    middle := 4 * d.mantissa * unit
    high := (4 * d.mantissa + 2) * unit
    scale := 4 * d.denominator
    closed := d.mantissa % 2 == 0 }

/-- Whether `num / den` lies in the interval. -/
def Neighbourhood.holds (i : Neighbourhood) (num den : Nat) : Bool :=
  let x := num * i.scale
  if i.closed then i.low * den ≤ x && x ≤ i.high * den
  else i.low * den < x && x < i.high * den

/-- The best decimal of `count` digits in the interval, as a multiple of `10 ^ (point - count)`. -/
def Neighbourhood.nearest? (i : Neighbourhood) (point : Int) (count : Nat) : Option Nat :=
  let shift := point - count
  let up := tenTo shift.toNat
  let down := tenTo (-shift).toNat
  let below := i.middle * down / (i.scale * up)
  let hits := [below, below + 1].filter fun d => d != 0 && i.holds (d * up) down
  match hits with
  | [] => none
  | [d] => some d
  | d :: e :: _ =>
    let gapBelow := i.middle * down - d * up * i.scale
    let gapAbove := e * up * i.scale - i.middle * down
    if gapBelow < gapAbove then some d
    else if gapAbove < gapBelow then some e
    else if d % 2 = 0 then some d else some e

/-- Without the zeros at the end. -/
def dropTrailingZeros (cs : List Char) : List Char := (cs.reverse.dropWhile (· == '0')).reverse

/-- Tries growing numbers of digits; seventeen always suffice. -/
def Neighbourhood.shortestFrom (i : Neighbourhood) (point : Int) : Nat → Nat → Scientific
  | 0, _ => ⟨[], point⟩
  | tries + 1, count =>
    match i.nearest? point count with
    | some d =>
      let text := digits d
      ⟨dropTrailingZeros text, point + (text.length - count : Int)⟩
    | none => i.shortestFrom point tries (count + 1)

/-- The shortest digits of a magnitude. -/
def Dyadic.shortest (d : Dyadic) : Scientific :=
  if d.mantissa == 0 then ⟨['0'], 1⟩
  else
    let i := d.neighbourhood
    i.shortestFrom (decimalPoint i.middle i.scale) 20 1

/-- The exponent of a number in scientific form: a sign and at least two digits. -/
def exponentText (e : Int) : List Char :=
  'e' :: (if e < 0 then '-' else '+') :: paddedDigits 2 e.natAbs

/-- A point among digits: zeros fill up to the point, and one digit at least follows it. -/
def positional (s : Scientific) : List Char :=
  if s.point ≤ 0 then '0' :: '.' :: List.replicate (-s.point).toNat '0' ++ s.digits
  else
    let n := s.point.toNat
    let whole := s.digits.take n ++ List.replicate (n - s.digits.length) '0'
    let rest := s.digits.drop n
    whole ++ '.' :: (if rest.isEmpty then ['0'] else rest)

/-- One digit before the point, and a power of ten. -/
def exponential (s : Scientific) : List Char :=
  let rest := s.digits.drop 1
  s.digits.take 1 ++ (if rest.isEmpty then [] else '.' :: rest) ++ exponentText (s.point - 1)

/-- Positional from `1e-4` up to below `1e16`, exponential outside. -/
def Scientific.text (s : Scientific) : List Char :=
  if -4 < s.point ∧ s.point ≤ 16 then positional s else exponential s

/-- The text of a double. -/
def floatText (x : Float) : String :=
  match Binary.ofFloat x with
  | .nan => "nan"
  | .infinite true => "-inf"
  | .infinite false => "inf"
  | .finite d => String.ofList ((if d.negative then ['-'] else []) ++ d.shortest.text)

end PgVitals.Number
