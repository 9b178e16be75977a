import PgVitals.Text.Escape
import PgVitals.Text.Lower
import PgVitals.Value
/-!
# Kinds of columns

What a column holds decides how it is aligned and how its cells are written. A column is of the most
general kind among its cells. Texts that spell numbers count as numbers.

* `Kind` lists the kinds, from the most special to the most general, and `Kind.join` is the more
  general of two.
* `Kind.ofText` is the kind of a text: `isWhole`, `isNumber` and `isGrouped` tell what a text
  spells, with commas between groups of three digits where these are allowed.
* `Kind.ofColumn` is the kind of a column.

Truth values are a kind of their own, more special than numbers. Nothing but the cells decides about
a kind, and so a table may look different with one more row.
-/

namespace PgVitals.Table

open PgVitals.Text PgVitals.Number

/-- What a cell or a column holds, from the most special kind to the most general. -/
inductive Kind where
  | empty | truth | whole | fractional | text
deriving DecidableEq

namespace Kind

/-- How general a kind is. -/
def rank : Kind → Nat
  | empty => 0
  | truth => 1
  | whole => 2
  | fractional => 3
  | text => 4

/-- The more general of two kinds. -/
def join (a b : Kind) : Kind := if a.rank < b.rank then b else a

/-- Whether columns of a kind are aligned as numbers. -/
def isNumeric : Kind → Bool
  | whole => true
  | fractional => true
  | _ => false

end Kind

/-! ## Texts that spell numbers -/

/-- Groups of three digits, each behind a comma, and what follows them. -/
def afterThousands : List Char → List Char
  | ',' :: a :: b :: c :: rest =>
    if isPlainDigit a && isPlainDigit b && isPlainDigit c then afterThousands rest
    else ',' :: a :: b :: c :: rest
  | cs => cs

/-- A point and digits, at least `least` of them, up to the end. -/
def isFraction (least : Nat) : List Char → Bool
  | '.' :: rest => rest.all isPlainDigit && least ≤ rest.length
  | _ => false

/-- One to three digits, groups of three digits behind commas, and perhaps a fraction. -/
def isGroupedNumber (cs : List Char) : Bool :=
  let unsigned := (takeSign cs).2
  let first := unsigned.takeWhile isPlainDigit
  let rest := afterThousands (unsigned.drop first.length)
  1 ≤ first.length && first.length ≤ 3 && (rest.isEmpty || isFraction 0 rest)

/-- A number whose thousands may be set off by commas, or nothing at all; a line feed may follow. -/
def isGrouped (s : String) : Bool :=
  let cs := match s.toList.reverse with
    | '\n' :: before => before.reverse
    | _ => s.toList
  cs.isEmpty || isFraction 1 cs || isGroupedNumber cs

/-- Whether a text spells a whole number. -/
def isWhole (s : String) : Bool := (readInt s).isOk

/-- Whether a text spells a number. One that is no number or without bound has to say so in plain
words. -/
def isNumber (s : String) : Bool :=
  match readFloat s with
  | none => false
  | some x => if x.isFinite then true else ["inf", "-inf", "nan"].contains (lower s)

/-! ## Kinds of cells -/

/-- The kind of a text. -/
def Kind.ofText (s : String) : Kind :=
  if s.isEmpty then .empty
  else if s == "True" || s == "False" then .truth
  else if isWhole s || (isGrouped s && !s.toList.contains '.') then .whole
  else if isNumber s || isGrouped s then .fractional
  else .text

/-- The kind of a cell. -/
def Kind.ofCell : Value → Kind
  | .null => .empty
  | .bool _ => .truth
  | .int _ => .whole
  | .float _ => .fractional
  | .decimal (.signalling _ _) => .text
  | .decimal _ => .fractional
  | .text s => .ofText (visible s)
  | _ => .text

/-- The kind of a column. -/
def Kind.ofColumn (cells : List Value) : Kind := (cells.map Kind.ofCell).foldl Kind.join .truth

end PgVitals.Table
