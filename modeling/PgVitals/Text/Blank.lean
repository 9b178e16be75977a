import PgVitals.Text.Ranges
/-!
# Blanks and line breaks

Which characters separate words and which end a line.
-/

namespace PgVitals.Text

/-- The blanks outside ASCII. -/
def foreignBlanks : Ranges := [
  (0x85, 0x85), (0xa0, 0xa0), (0x1680, 0x1680), (0x2000, 0x200a), (0x2028, 0x2029),
  (0x202f, 0x202f), (0x205f, 0x205f), (0x3000, 0x3000)]

/-- A character that separates words. -/
def isBlank (c : Char) : Bool :=
  if c.toNat < 128 then (9 ≤ c.toNat && c.toNat ≤ 13) || (28 ≤ c.toNat && c.toNat ≤ 32)
  else foreignBlanks.holds c.toNat

/-- A character that may stand around a number: of the ASCII blanks, the separators 28 to 31 may
not. -/
def isNumberBlank (c : Char) : Bool :=
  if c.toNat < 128 then (9 ≤ c.toNat && c.toNat ≤ 13) || c.toNat == 32
  else foreignBlanks.holds c.toNat

/-- A character that ends a line of text. -/
def isLineBreak (c : Char) : Bool :=
  let n := c.toNat
  (10 ≤ n && n ≤ 13) || (28 ≤ n && n ≤ 30) || n == 0x85 || n == 0x2028 || n == 0x2029

end PgVitals.Text
