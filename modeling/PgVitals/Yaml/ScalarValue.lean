import PgVitals.Text.Lower
import PgVitals.Value
import PgVitals.Yaml.Base64
import PgVitals.Yaml.Cursor
import PgVitals.Yaml.Schema
/-!
# Values of scalars

The tag of a scalar says how its text is read: as a number, a truth value, a moment, bytes or as it
stands. A text whose spelling does not fit its tag is refused.
-/

namespace PgVitals.Yaml

open PgVitals.Text PgVitals.Number PgVitals.Time

/-- A flaw of a value. -/
def refuse {α : Type} (fault : Fault) : Except Flaw α := .error (.value fault)

/-- A text without underscores. -/
def withoutUnderscores (s : String) : String := replaceChar '_' [] s

/-- A sign in front of a text that is not empty, and the rest. -/
def signed (s : String) : Except Flaw (Bool × List Char) :=
  if s.isEmpty then refuse .missingItem else .ok (takeSign s.toList)

/-- A whole number in base ten. -/
def decimalInt (cs : List Char) : Except Flaw Int :=
  let s := String.ofList cs
  match Value.intOfText (quote s) s with
  | .ok n => .ok n
  | .error fault => refuse fault

/-- A whole number in another base. -/
def intIn (base : Nat) (cs : List Char) : Except Flaw Int :=
  let s := String.ofList cs
  match readIntIn base s with
  | some n => .ok n
  | none => refuse (.notInBase base (quote s))

/-- The value of a whole number. -/
def intOf (s : String) : Except Flaw Int := do
  let (negative, cs) ← signed (withoutUnderscores s)
  let n : Int ←
    match cs with
    | ['0'] => pure 0
    | '0' :: 'b' :: rest => intIn 2 rest
    | '0' :: 'x' :: rest => intIn 16 rest
    | '0' :: _ => intIn 8 cs
    | [] => refuse .missingItem
    | _ =>
      if cs.contains ':' then
        (fun parts => parts.foldl (fun n part => n * 60 + part) 0) <$>
          (colonParts cs).mapM decimalInt
      else decimalInt cs
  return if negative then -n else n

/-- A double. -/
def doubleOf (cs : List Char) : Except Flaw Float :=
  let s := String.ofList cs
  match Value.floatOfText (quote s) s with
  | .ok x => .ok x
  | .error fault => refuse fault

/-- The sum of parts, the last first, each worth sixty times the one before. What a part is worth
has to be in the range of doubles. -/
def sexagesimal : Float → Nat → List Float → Except Flaw Float
  | sum, _, [] => .ok sum
  | sum, base, part :: rest =>
    match floatOfInt base with
    | some worth => sexagesimal (sum + part * worth) (base * 60) rest
    | none => refuse .integerTooLarge

/-- Whether the text of a number, a sign apart, says that it is none. -/
def isNotANumber (s : String) : Bool :=
  (takeSign (lower (withoutUnderscores s)).toList).2 == ".nan".toList

/-- The value of a number with a fraction. -/
def floatOf (s : String) : Except Flaw Float := do
  let (negative, cs) ← signed (lower (withoutUnderscores s))
  let word := String.ofList cs
  if word == ".nan" then return notANumber
  else
    let x ←
      if word == ".inf" then pure infinity
      else if cs.contains ':' then
        sexagesimal 0.0 1 (← (colonParts cs).mapM doubleOf).reverse
      else doubleOf cs
    return if negative then -x else x

/-- The value of a word for a truth value. -/
def boolOf (s : String) : Except Flaw Bool :=
  match lower s with
  | "yes" | "true" | "on" => .ok true
  | "no" | "false" | "off" => .ok false
  | _ => refuse .missingEntry

/-- The offset of a moment in seconds. -/
def offsetOf (negative : Bool) (hours minutes : List Char) : Except Flaw Int :=
  let seconds : Int := digitsValue hours * 3600 + digitsValue minutes * 60
  let offset := if negative then -seconds else seconds
  if seconds < 86400 then .ok offset else refuse (.calendar (.offset (.ofSeconds offset)))

/-- A value of the calendar. -/
def dated {α : Type} : Except CalendarFault α → Except Flaw α
  | .ok a => .ok a
  | .error fault => refuse (.calendar fault)

/-- The value of a moment. -/
def momentOf (s : String) : Except Flaw Value := do
  match moment? (withoutLineFeed s.toList) with
  | none => refuse .missingPart
  | some m =>
    let year := digitsValue m.year
    let month := digitsValue m.month
    let day := digitsValue m.day
    match m.time with
    | none => .date <$> dated (Date.make year month day)
    | some (hour, minute, second, fraction) =>
      let micros := digitsValue (fraction.take 6 ++ List.replicate (6 - fraction.length) '0')
      let offset ←
        match m.offset with
        | none => pure none
        | some none => pure (some 0)
        | some (some (negative, hours, minutes)) => some <$> offsetOf negative hours minutes
      .timestamp <$> dated (Timestamp.make year month day (digitsValue hour) (digitsValue minute)
        (digitsValue second) micros offset)

/-- The value of a scalar of some type. -/
def scalarValue (tag : Tag) (s : String) : Except Flaw Value :=
  match tag with
  | .null => .ok .null
  | .bool => .bool <$> boolOf s
  | .int => .int <$> intOf s
  | .float => .float <$> floatOf s
  | .binary =>
    match bytesOfBase64 s with
    | some bytes => .ok (.bytes bytes)
    | none => .error .malformed
  | .timestamp => momentOf s
  | .text => .ok (.text s)
  | _ => .error .malformed

end PgVitals.Yaml
