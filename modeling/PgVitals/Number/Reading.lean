import PgVitals.Text.Blank
import PgVitals.Text.Digit
import PgVitals.Text.Split
import PgVitals.Number.Decimal
/-!
# Reading numbers

Whole numbers and doubles are read with blanks around them, a sign, digits of any script, and single
underscores between digits. Doubles may have a fraction and an exponent, or be spelled `inf`,
`infinity` or `nan` in any case.

* `readInt` reads a whole number, and `readIntIn` one in a base of two, eight or sixteen. Of the
  first there may be 4300 digits, and no more; the second has no limit.
* `readFloat` reads a double, by way of `nearestFloat`: the double nearest to a decimal, with a half
  to the even neighbour.
* `readDecimal` reads a decimal of any precision.
* `floatOfInt` and `floatOfDecimal` turn numbers into doubles, where there is one that is near
  enough.

That digits are too many is noticed before what follows them is looked at, which decides between two
faults of one text.
-/

namespace PgVitals.Number

open PgVitals.Text

/-- Digits of any script as ASCII digits; blanks around a number as spaces. -/
def plain (c : Char) : Char :=
  if c.toNat < 128 then c
  else if isNumberBlank c then ' '
  else
    match digit? c with
    | some d => Char.ofNat (48 + d)
    | none => c

/-- An ASCII digit. -/
def isPlainDigit (c : Char) : Bool := 48 ≤ c.toNat && c.toNat ≤ 57

/-- The number that ASCII digits write; other characters are passed over. -/
def digitsValue (cs : List Char) : Nat :=
  cs.foldl (fun n c => if isPlainDigit c then 10 * n + (c.toNat - 48) else n) 0

/-- The value of digits in which single underscores may stand between digits. -/
def spacedDigits? : List Char → Bool
  | [] => false
  | [c] => isPlainDigit c
  | c :: '_' :: rest => isPlainDigit c && spacedDigits? rest
  | c :: rest => isPlainDigit c && spacedDigits? rest

/-- A sign in front: whether it is a minus, and the rest. -/
def takeSign : List Char → Bool × List Char
  | '-' :: rest => (true, rest)
  | '+' :: rest => (false, rest)
  | cs => (false, cs)

/-- Why a text is not read as a whole number. -/
inductive IntegerFault where
  | malformed
  | tooLong (digits : Nat)
deriving DecidableEq

/-- Reads a whole number. Digits beyond the limit are refused before what follows them is looked
at. -/
def readInt (s : String) : Except IntegerFault Int :=
  let (negative, body) := takeSign ((s.toList.map plain).dropWhile isNumberBlank)
  let run := body.takeWhile fun c => isPlainDigit c || c == '_'
  let rest := body.drop run.length
  let count := (run.filter isPlainDigit).length
  if !spacedDigits? run then .error .malformed
  else if digitLimit < count then .error (.tooLong count)
  else if !rest.all isNumberBlank then .error .malformed
  else
    let n : Int := digitsValue run
    .ok (if negative then -n else n)

/-- An ASCII letter in lower case. -/
def plainLower (c : Char) : Char :=
  if 65 ≤ c.toNat ∧ c.toNat ≤ 90 then Char.ofNat (c.toNat + 32) else c

/-- The value of a digit in bases up to sixteen. -/
def baseDigit? (base : Nat) (c : Char) : Option Nat :=
  let n := c.toNat
  let value :=
    if 48 ≤ n ∧ n ≤ 57 then n - 48
    else if 97 ≤ n ∧ n ≤ 102 then n - 87
    else if 65 ≤ n ∧ n ≤ 70 then n - 55
    else base
  if value < base then some value else none

/-- The value of digits of a base in which single underscores may stand between digits. -/
def baseValue? (base : Nat) : Nat → List Char → Option Nat
  | _, [] => none
  | n, [c] => (baseDigit? base c).map fun d => n * base + d
  | n, c :: '_' :: rest => (baseDigit? base c).bind fun d => baseValue? base (n * base + d) rest
  | n, c :: rest => (baseDigit? base c).bind fun d => baseValue? base (n * base + d) rest

/-- The letter that may stand behind a zero in front of the digits of a base. -/
def baseLetter : Nat → Char
  | 2 => 'b'
  | 8 => 'o'
  | _ => 'x'

/-- Digits of a base without the zero and the letter that may stand in front of them. -/
def withoutBase (base : Nat) : List Char → List Char
  | '0' :: c :: rest =>
    if plainLower c = baseLetter base then
      match rest with
      | '_' :: digits => digits
      | digits => digits
    else '0' :: c :: rest
  | cs => cs

/-- Reads a whole number written in a base of two, eight or sixteen. -/
def readIntIn (base : Nat) (s : String) : Option Int :=
  let (negative, body) := takeSign (trimBy isNumberBlank (s.toList.map plain))
  (baseValue? base 0 (withoutBase base body)).map fun n => if negative then -(n : Int) else n

/-- Underscores removed, if each stands between two digits. -/
def dropUnderscores : Option Char → List Char → Option (List Char)
  | some '_', [] => none
  | _, [] => some []
  | before, '_' :: rest =>
    match before with
    | some c => if isPlainDigit c then dropUnderscores (some '_') rest else none
    | none => none
  | before, c :: rest =>
    if before == some '_' && !isPlainDigit c then none
    else (dropUnderscores (some c) rest).map (c :: ·)

/-- The parts of a number: digits before and after the point, and the exponent. -/
structure Parts where
  whole : List Char
  fraction : List Char
  exponent : Int

/-- Reads digits, a point, digits and an exponent; one digit at least stands beside the point. -/
def readParts (cs : List Char) : Option Parts :=
  let whole := cs.takeWhile isPlainDigit
  let afterWhole := cs.drop whole.length
  let (fraction, rest) :=
    match afterWhole with
    | '.' :: more =>
      let fraction := more.takeWhile isPlainDigit
      (fraction, more.drop fraction.length)
    | _ => ([], afterWhole)
  if whole.isEmpty && fraction.isEmpty then none
  else
    match rest with
    | [] => some ⟨whole, fraction, 0⟩
    | e :: more =>
      if e == 'e' || e == 'E' then
        let (negative, ds) := takeSign more
        if ds.isEmpty || !ds.all isPlainDigit then none
        else
          let n : Int := digitsValue ds
          some ⟨whole, fraction, if negative then -n else n⟩
      else none

/-- The double nearest to `coefficient · 10 ^ exponent`. Exponents that decide by themselves are cut
short. -/
def nearestFloat (coefficient : Nat) (exponent : Int) : Float :=
  if coefficient = 0 then 0.0
  else
    let size : Int := (digits coefficient).length + exponent
    if 400 < size then Float.ofScientific 1 false 400
    else if size < -400 then 0.0
    else if 0 ≤ exponent then Float.ofScientific (coefficient * tenTo exponent.toNat) false 0
    else Float.ofScientific coefficient true (-exponent).toNat

/-- Positive infinity. -/
def infinity : Float := Float.ofScientific 1 false 400

/-- The value that is no number. -/
def notANumber : Float := infinity - infinity

/-- A magnitude spelled as a word. -/
def readSpecial (cs : List Char) : Option Float :=
  let word := String.ofList (cs.map plainLower)
  if word == "inf" || word == "infinity" then some infinity
  else if word == "nan" then some notANumber
  else none

/-- The double nearest to a number in parts. -/
def Parts.toFloat (p : Parts) : Float :=
  nearestFloat (digitsValue (p.whole ++ p.fraction)) (p.exponent - p.fraction.length)

/-- Reads a double without underscores and blanks. -/
def readBareFloat (cs : List Char) : Option Float :=
  let (negative, body) := takeSign cs
  let magnitude : Option Float :=
    match readSpecial body with
    | some x => some x
    | none => (readParts body).map Parts.toFloat
  magnitude.map fun x => if negative then -x else x

/-- Reads a double. -/
def readFloat (s : String) : Option Float := do
  let cs ← dropUnderscores none (trimBy isNumberBlank (s.toList.map plain))
  readBareFloat cs

/-- Reads a decimal of any precision. -/
def readDecimal (s : String) : Option Decimal :=
  let cs := trimBy isBlank s.toList
  let (negative, body) := takeSign ((cs.filter (· != '_')).map plain)
  let word := String.ofList (body.map plainLower)
  if word == "inf" || word == "infinity" then some (.infinite negative)
  else if word.startsWith "snan" then some (.signalling negative (digitsValue (body.drop 4)))
  else if word.startsWith "nan" then some (.nan negative (digitsValue (body.drop 3)))
  else
    (readParts body).map fun p =>
      .finite negative (digitsValue (p.whole ++ p.fraction)) (p.exponent - p.fraction.length)

/-- The double nearest to a whole number, unless it is too large for one. -/
def floatOfInt (n : Int) : Option Float :=
  let x := Float.ofScientific n.natAbs false 0
  if x == infinity then none else some (if n < 0 then -x else x)

/-- The double nearest to a decimal. -/
def floatOfDecimal : Decimal → Float
  | .finite negative coefficient exponent =>
    let x := nearestFloat coefficient exponent
    if negative then -x else x
  | .infinite negative => if negative then -infinity else infinity
  | .nan _ _ => notANumber
  | .signalling _ _ => notANumber

end PgVitals.Number
