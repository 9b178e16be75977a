import PgVitals.Table.Kind
/-!
# Texts of cells

How a cell is written depends on the kind of its column. Numbers keep the terminal escapes around
them, and a text that turns out to be no number stays as it is.

* `cellText` is the text of a cell in a column of some kind; nothing stands for null.
* `wholeText` and `fractionalText` are texts in columns of numbers. A text that spells a number is
  written as one there: zeros in front of it go, or it gets the places of its column.

What a fractional number looks like in the end is up to the style of the table, and is a parameter
here.
-/

namespace PgVitals.Table

open PgVitals.Text PgVitals.Number

/-! ## Whole numbers -/

/-- Whether a character shows in a quoted text as a number of two hexadecimal digits. -/
def isControl (c : Char) : Bool :=
  (c.toNat < 32 && c != '\t' && c != '\n' && c != '\r') || (127 ≤ c.toNat && c.toNat < 256)

/-- Whether a character shows in a quoted text behind a backslash. -/
def isEscaped (c : Char) : Bool := c.toNat < 32 || 127 ≤ c.toNat || c = '\\'

/-- A hexadecimal digit. -/
def isHexDigit (c : Char) : Bool := (baseDigit? 16 c).isSome

/-- Digits without zeros in front of the number. -/
def withoutZeros (ds : List Char) : List Char :=
  let rest := ds.dropWhile (· == '0')
  if rest.isEmpty then ds.take 1 else rest

/-- What a colour sets in front of a number, the number, and what is behind it, if a text starts so.
The colour is a control character, a bracket, one parameter and the letter of colours. -/
def coloured? : List Char → Option (List Char × List Char × List Char)
  | [] => none
  | c :: cs =>
    let filler := cs.takeWhile isHexDigit
    match cs.drop filler.length with
    | '[' :: rest =>
      let parameter := rest.takeWhile isPlainDigit
      let rest := rest.drop parameter.length
      let letters := rest.takeWhile fun c => c == 'm' || c == 'M'
      let rest := rest.drop letters.length
      let number := rest.takeWhile fun c => isPlainDigit c || c == '.'
      let behind := rest.drop number.length
      if isControl c && !parameter.isEmpty && !letters.isEmpty && !number.isEmpty &&
          behind.head?.any isEscaped then
        some (c :: filler ++ '[' :: parameter ++ letters, number, behind)
      else none
    | _ => none

/-- A text in a column of whole numbers. Of a number in colour zeros in front are left out, and with
them what is in front of the colour. -/
def wholeText (s : String) : String := go s.toList
where
  /-- The text from the first number in colour on. -/
  go : List Char → String
    | [] => s
    | c :: rest =>
      match coloured? (c :: rest) with
      | some (colour, number, behind) =>
        if number.contains '.' then s
        else String.ofList (colour ++ withoutZeros number ++ behind)
      | none => go rest

/-! ## Fractional numbers -/

/-- A text in a column of fractional numbers. Where there are terminal escapes in the table, the
number keeps what is around it; otherwise commas are passed over. -/
def fractionalText (write : Float → String) (escapes : Bool) (s : String) : String :=
  if escapes then
    let shown := visible s
    match readFloat shown with
    | some x => replace s shown (write x)
    | none => s
  else
    let plain := replaceChar ',' [] s
    match readFloat plain with
    | some x => write x
    | none => plain

/-! ## Cells -/

/-- The text of a cell; nothing stands for null. -/
def cellText (write : Float → String) (escapes : Bool) (kind : Kind) (cell : Value) :
    Except Fault String :=
  match kind, cell with
  | _, .null => .ok ""
  | _, .text "" => .ok ""
  | .whole, .text s => .ok (wholeText s)
  | .fractional, .text s => .ok (fractionalText write escapes s)
  | .fractional, v => write <$> v.toFloat
  | _, v => v.written

end PgVitals.Table
