import PgVitals.Number.Reading
/-!
# What plain texts mean

A tag names the type of a value. Plain texts have no tag of their own; their spelling decides
whether they are null, a truth value, a number, a moment or a text.
-/

namespace PgVitals.Yaml

open PgVitals.Number

/-- The type of a value. -/
inductive Tag where
  | null | bool | int | float | binary | timestamp | omap | pairs | set | text | sequence | mapping
  /-- The key whose value is merged into a mapping. -/
  | merge
  /-- The key of the main value of a mapping. -/
  | main
  | unknown
deriving DecidableEq

/-- What the tags of this schema start with. -/
def coreTags : String := "tag:yaml.org,2002:"

/-- The tag of a full name. -/
def Tag.ofName (name : String) : Tag :=
  let named : List (String × Tag) := [("null", .null), ("bool", .bool), ("int", .int),
    ("float", .float), ("binary", .binary), ("timestamp", .timestamp), ("omap", .omap),
    ("pairs", .pairs), ("set", .set), ("str", .text), ("seq", .sequence), ("map", .mapping),
    ("merge", .merge), ("value", .main)]
  ((named.map fun (n, t) => (coreTags ++ n, t)).lookup name).getD .unknown

/-! ## Spellings -/

/-- A digit or an underscore. -/
def isSpacedDigit (c : Char) : Bool := isPlainDigit c || c == '_'

/-- A digit, then digits and underscores. -/
def isSpacedNumber : List Char → Bool
  | [] => false
  | c :: rest => isPlainDigit c && rest.all isSpacedDigit

/-- The digits of a part of a sexagesimal number, less than 60. -/
def isSixtieth : List Char → Bool
  | [c] => isPlainDigit c
  | [a, b] => '0' ≤ a && a ≤ '5' && isPlainDigit b
  | _ => false

/-- The parts of a text between colons. -/
def colonParts (cs : List Char) : List (List Char) := Text.splitBy (· == ':') cs

/-- Further parts behind colons, at least one. -/
def areSixtieths (parts : List (List Char)) : Bool := !parts.isEmpty && parts.all isSixtieth

/-- An exponent with its sign, or nothing. -/
def isExponent : List Char → Bool
  | [] => true
  | e :: sign :: ds =>
    (e == 'e' || e == 'E') && (sign == '+' || sign == '-') && !ds.isEmpty && ds.all isPlainDigit
  | _ => false

/-- The parts of a text in front of its first point and behind it. -/
def atPoint? (cs : List Char) : Option (List Char × List Char) :=
  let whole := cs.takeWhile (· != '.')
  match cs.drop whole.length with
  | _ :: rest => some (whole, rest)
  | [] => none

/-- A truth value. -/
def isBool (s : String) : Bool :=
  ["yes", "Yes", "YES", "no", "No", "NO", "true", "True", "TRUE", "false", "False", "FALSE",
    "on", "On", "ON", "off", "Off", "OFF"].contains s

/-- A number with a point. -/
def isFloat (cs : List Char) : Bool :=
  let unsigned := (takeSign cs).2
  let word := String.ofList unsigned
  if word == ".inf" || word == ".Inf" || word == ".INF" then true
  else if [".nan", ".NaN", ".NAN"].contains (String.ofList cs) then true
  else
    match atPoint? unsigned with
    | none => false
    | some (whole, rest) =>
      let fraction := rest.takeWhile isSpacedDigit
      let exponent := rest.drop fraction.length
      match colonParts whole with
      | [[]] => unsigned.length == cs.length && isSpacedNumber fraction && isExponent exponent
      | [whole] => isSpacedNumber whole && isExponent exponent
      | whole :: parts => isSpacedNumber whole && areSixtieths parts && exponent.isEmpty
      | [] => false

/-- Digits of a base behind its letter, with underscores. -/
def areDigits (p : Char → Bool) (cs : List Char) : Bool :=
  !cs.isEmpty && cs.all fun c => p c || c == '_'

/-- A whole number: decimal, octal, binary, hexadecimal or sexagesimal. -/
def isInt (cs : List Char) : Bool :=
  match (takeSign cs).2 with
  | ['0'] => true
  | '0' :: 'b' :: rest => areDigits (fun c => c == '0' || c == '1') rest
  | '0' :: 'x' :: rest =>
    areDigits (fun c => isPlainDigit c || ('a' ≤ c && c ≤ 'f') || ('A' ≤ c && c ≤ 'F')) rest
  | '0' :: rest => areDigits (fun c => '0' ≤ c && c ≤ '7') rest
  | unsigned =>
    match colonParts unsigned with
    | [whole] => isSpacedNumber whole
    | whole :: parts => isSpacedNumber whole && areSixtieths parts
    | [] => false

/-- Null. -/
def isNull (s : String) : Bool := ["", "~", "null", "Null", "NULL"].contains s

/-! ## Moments -/

/-- The parts of a moment as they are written. -/
structure Moment where
  year : List Char
  month : List Char
  day : List Char
  /-- Hour, minute, second and fraction, where there is a time. -/
  time : Option (List Char × List Char × List Char × List Char)
  /-- Whether an offset is written, and its sign, hours and minutes if it is not zero. -/
  offset : Option (Option (Bool × List Char × List Char))

/-- One or two digits, and what follows them. -/
def shortNumber? (cs : List Char) : Option (List Char × List Char) :=
  let ds := (cs.take 2).takeWhile isPlainDigit
  if ds.isEmpty then none else some (ds, cs.drop ds.length)

/-- As many digits as wanted, and what follows them. -/
def digitsExactly? (count : Nat) (cs : List Char) : Option (List Char × List Char) :=
  let ds := cs.take count
  if ds.length = count && ds.all isPlainDigit then some (ds, cs.drop count) else none

/-- What follows a given character. -/
def after? (c : Char) : List Char → Option (List Char)
  | d :: rest => if c = d then some rest else none
  | [] => none

/-- Whether a character is a space or a tab. -/
def isSpaceOrTab (c : Char) : Bool := c == ' ' || c == '\t'

/-- What follows the mark between date and time: a letter or blanks. -/
def afterDate? (cs : List Char) : Option (List Char) :=
  match cs with
  | c :: rest =>
    if c == 'T' || c == 't' then some rest
    else if isSpaceOrTab c then some (rest.dropWhile isSpaceOrTab)
    else none
  | [] => none

/-- An offset up to the end of a text. -/
def offset? (cs : List Char) : Option (Option (Option (Bool × List Char × List Char))) :=
  match cs.dropWhile isSpaceOrTab with
  | [] => if cs.isEmpty then some none else none
  | ['Z'] => some (some none)
  | sign :: rest => do
    if sign != '+' && sign != '-' then none
    else
      let (hours, rest) ← shortNumber? rest
      match rest with
      | [] => some (some (some (sign == '-', hours, [])))
      | ':' :: more =>
        let (minutes, more) ← digitsExactly? 2 more
        if more.isEmpty then some (some (some (sign == '-', hours, minutes))) else none
      | _ => none

/-- The parts of a moment: a date, or a date and a time with or without an offset. -/
def moment? (cs : List Char) : Option Moment := do
  let (year, rest) ← digitsExactly? 4 cs
  let (month, rest) ← shortNumber? (← after? '-' rest)
  let (day, rest) ← shortNumber? (← after? '-' rest)
  if rest.isEmpty then some ⟨year, month, day, none, none⟩
  else
    let (hour, rest) ← shortNumber? (← afterDate? rest)
    let (minute, rest) ← digitsExactly? 2 (← after? ':' rest)
    let (second, rest) ← digitsExactly? 2 (← after? ':' rest)
    let (fraction, rest) :=
      match rest with
      | '.' :: more =>
        let ds := more.takeWhile isPlainDigit
        (ds, more.drop ds.length)
      | _ => ([], rest)
    let offset ← offset? rest
    some ⟨year, month, day, some (hour, minute, second, fraction), offset⟩

/-- A moment that needs no tag: a date alone has two digits for month and day. -/
def isMoment (cs : List Char) : Bool :=
  match moment? cs with
  | some m => m.time.isSome || (m.month.length == 2 && m.day.length == 2)
  | none => false

/-! ## Tags of plain texts -/

/-- A text without a line feed at its end. -/
def withoutLineFeed (cs : List Char) : List Char :=
  match cs.reverse with
  | '\n' :: before => before.reverse
  | _ => cs

/-- The tag of a plain text. -/
def Tag.ofPlain (s : String) : Tag :=
  let cs := withoutLineFeed s.toList
  let word := String.ofList cs
  if s.isEmpty then .null
  else if word.isEmpty then .text
  else if isBool word then .bool
  else if isFloat cs then .float
  else if isInt cs then .int
  else if word == "<<" then .merge
  else if isNull word then .null
  else if isMoment cs then .timestamp
  else if word == "=" then .main
  else if ["!", "&", "*"].contains word then .unknown
  else .text

end PgVitals.Yaml
