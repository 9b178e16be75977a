/-!
# Bytes in base 64

Four characters write three bytes. Characters outside the alphabet are passed over. The padding at
the end completes the last group of four.
-/

namespace PgVitals.Yaml

/-- The value of a character of the alphabet. -/
def sixBits? (c : Char) : Option Nat :=
  let n := c.toNat
  if 65 ≤ n ∧ n ≤ 90 then some (n - 65)
  else if 97 ≤ n ∧ n ≤ 122 then some (n - 71)
  else if 48 ≤ n ∧ n ≤ 57 then some (n + 4)
  else if c = '+' then some 62
  else if c = '/' then some 63
  else none

/-- Reads bytes. `held` is what is left of the characters of a group so far, `count` their number,
and `padding` the number of padding characters behind them. A group that is not complete gives
nothing. -/
def readBase64 (held count padding : Nat) : List Char → Option (List UInt8)
  | [] => if count = 0 then some [] else none
  | c :: rest =>
    if c = '=' then
      if 2 ≤ count then
        if 4 ≤ count + padding + 1 then some [] else readBase64 held count (padding + 1) rest
      else readBase64 held count padding rest
    else
      match sixBits? c with
      | none => readBase64 held count padding rest
      | some bits =>
        if count = 0 then readBase64 bits 1 0 rest
        else if count = 1 then
          (readBase64 (bits % 16) 2 0 rest).map ((held * 4 + bits / 16).toUInt8 :: ·)
        else if count = 2 then
          (readBase64 (bits % 4) 3 0 rest).map ((held * 16 + bits / 4).toUInt8 :: ·)
        else (readBase64 0 0 0 rest).map ((held * 64 + bits).toUInt8 :: ·)

/-- The bytes a text writes in base 64. Only ASCII texts do. -/
def bytesOfBase64 (s : String) : Option (List UInt8) :=
  if s.toList.all fun c => c.toNat < 128 then readBase64 0 0 0 s.toList else none

end PgVitals.Yaml
