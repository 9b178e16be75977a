import PgVitals.Time.Interval
import PgVitals.Number.Reading
/-!
# Dates and timestamps

Dates of the Gregorian calendar from year 1 to 9999, and timestamps with or without an offset from
universal time.

* `Date.make` and `Timestamp.make` refuse what lies outside the calendar, with a `CalendarFault` for
  each part.
* `Date.text` and `Timestamp.text` are the texts on their own, and `Date.quoted` and
  `Timestamp.quoted` the forms within a list.
* `Date.read` and `Timestamp.read` read the texts again.
* `Timestamp.instant` is the moment in universal time, by which timestamps with an offset are
  compared.

Offsets are whole seconds, and less than a day. There are no time zones with rules of their own.
-/

namespace PgVitals.Time

open PgVitals.Number

/-- A day. -/
structure Date where
  year : Nat
  month : Nat
  day : Nat
deriving DecidableEq

/-- A moment. The offset is in seconds east of universal time. -/
structure Timestamp where
  date : Date
  hour : Nat
  minute : Nat
  second : Nat
  micros : Nat
  offset : Option Int
deriving DecidableEq

/-- Which part of a date or time lies outside the calendar. -/
inductive CalendarFault where
  | year (value : Nat)
  | month
  | day
  | hour
  | minute
  | second
  | offset (value : Interval)
deriving DecidableEq

/-- The wording of a calendar fault. -/
def CalendarFault.message : CalendarFault → String
  | year value => "year " ++ natText value ++ " is out of range"
  | month => "month must be in 1..12"
  | day => "day is out of range for month"
  | hour => "hour must be in 0..23"
  | minute => "minute must be in 0..59"
  | second => "second must be in 0..59"
  | offset value =>
    "offset must be a timedelta strictly between -timedelta(hours=24) and timedelta(hours=24), " ++
      "not " ++ value.quoted ++ "."

/-- Whether a year has a 29th of February. -/
def isLeapYear (year : Nat) : Bool :=
  year % 4 == 0 && (year % 100 != 0 || year % 400 == 0)

/-- The number of days of a month. -/
def daysInMonth (year month : Nat) : Nat :=
  if month = 2 then if isLeapYear year then 29 else 28
  else if month = 4 ∨ month = 6 ∨ month = 9 ∨ month = 11 then 30
  else 31

/-- A date of the calendar. The year is looked at first, then the month, then the day. -/
def Date.make (year month day : Nat) : Except CalendarFault Date :=
  if year = 0 ∨ 9999 < year then .error (.year year)
  else if month = 0 ∨ 12 < month then .error .month
  else if day = 0 ∨ daysInMonth year month < day then .error .day
  else .ok ⟨year, month, day⟩

/-- A timestamp of the calendar: the date first, then hour, minute and second. -/
def Timestamp.make (year month day hour minute second micros : Nat) (offset : Option Int) :
    Except CalendarFault Timestamp := do
  let date ← Date.make year month day
  if 23 < hour then throw .hour
  if 59 < minute then throw .minute
  if 59 < second then throw .second
  return ⟨date, hour, minute, second, micros, offset⟩

/-- Two digits. -/
def twoDigits (n : Nat) : String := String.ofList (paddedDigits 2 n)

/-- The text of a date: year, month and day, joined by hyphens. -/
def Date.text (d : Date) : String :=
  String.ofList (paddedDigits 4 d.year) ++ "-" ++ twoDigits d.month ++ "-" ++ twoDigits d.day

/-- How a date shows within a list. -/
def Date.quoted (d : Date) : String :=
  "datetime.date(" ++ natText d.year ++ ", " ++ natText d.month ++ ", " ++ natText d.day ++ ")"

/-- The text of an offset: sign, hours and minutes, and seconds where there are some. -/
def offsetText (offset : Int) : String :=
  let n := offset.natAbs
  (if offset < 0 then "-" else "+") ++ twoDigits (n / 3600) ++ ":" ++ twoDigits (n / 60 % 60) ++
    (if n % 60 = 0 then "" else ":" ++ twoDigits (n % 60))

/-- The text of a timestamp, with `between` between date and time. -/
def Timestamp.textWith (between : String) (t : Timestamp) : String :=
  t.date.text ++ between ++ twoDigits t.hour ++ ":" ++ twoDigits t.minute ++ ":" ++
    twoDigits t.second ++ Interval.fractionText t.micros ++
    (match t.offset with
      | some offset => offsetText offset
      | none => "")

/-- The text of a timestamp. -/
def Timestamp.text (t : Timestamp) : String := t.textWith " "

/-- How an offset shows within a list. -/
def quotedOffset (offset : Int) : String :=
  if offset = 0 then "datetime.timezone.utc"
  else "datetime.timezone(" ++ (Interval.ofSeconds offset).quoted ++ ")"

/-- How a timestamp shows within a list; zero seconds and microseconds at the end are left out. -/
def Timestamp.quoted (t : Timestamp) : String :=
  let tail :=
    if t.micros ≠ 0 then [t.second, t.micros] else if t.second ≠ 0 then [t.second] else []
  let parts := [t.date.year, t.date.month, t.date.day, t.hour, t.minute] ++ tail
  "datetime.datetime(" ++ String.intercalate ", " (parts.map natText) ++
    (match t.offset with
      | some offset => ", tzinfo=" ++ quotedOffset offset
      | none => "") ++ ")"

/-- Days from the first of January of year 1 to the start of a date. -/
def Date.dayNumber (d : Date) : Nat :=
  let y := d.year - 1
  let months :=
    (List.range (d.month - 1)).foldr (fun m days => daysInMonth d.year (m + 1) + days) 0
  y * 365 + y / 4 - y / 100 + y / 400 + months + (d.day - 1)

/-- Microseconds since the start of year 1, in universal time where an offset is known. -/
def Timestamp.instant (t : Timestamp) : Int :=
  let seconds : Int := t.date.dayNumber * 86400 + t.hour * 3600 + t.minute * 60 + t.second
  (seconds - t.offset.getD 0) * 1000000 + t.micros

/-- Reads as many digits as wanted. -/
def takeDigits (count : Nat) (cs : List Char) : Option (Nat × List Char) :=
  let ds := cs.take count
  if ds.length = count && ds.all isPlainDigit then some (digitsValue ds, cs.drop count) else none

/-- Reads a given character. -/
def takeChar (c : Char) : List Char → Option (List Char)
  | d :: rest => if c = d then some rest else none
  | [] => none

/-- Reads a date written with hyphens, and returns what follows it. -/
def readDate (cs : List Char) : Option (Date × List Char) := do
  let (year, rest) ← takeDigits 4 cs
  let (month, rest) ← takeDigits 2 (← takeChar '-' rest)
  let (day, rest) ← takeDigits 2 (← takeChar '-' rest)
  match Date.make year month day with
  | .ok date => some (date, rest)
  | .error _ => none

/-- Reads a date that stands alone. -/
def Date.read (s : String) : Option Date := do
  let (date, rest) ← readDate s.toList
  if rest.isEmpty then some date else none

/-- Reads up to `count` numbers of two digits, with or without colons between them. -/
def readClock : Nat → List Char → Option (List Nat × List Char)
  | 0, cs => some ([], cs)
  | count + 1, cs => do
    let (first, rest) ← takeDigits 2 cs
    match readClock count ((takeChar ':' rest).getD rest) with
    | some (more, rest) => some (first :: more, rest)
    | none => some ([first], rest)

/-- Reads an offset, or nothing. -/
def readOffset : List Char → Option (Option Int)
  | [] => some none
  | ['Z'] => some (some 0)
  | c :: rest => do
    if c ≠ '+' ∧ c ≠ '-' then none
    else
      let (parts, rest) ← readClock 3 rest
      if rest.isEmpty then
        let all := parts ++ List.replicate (3 - parts.length) 0
        let seconds : Nat := all.foldl (fun n k => 60 * n + k) 0
        some (some (if c = '-' then -(seconds : Int) else seconds))
      else none

/-- Reads a fraction of a second in microseconds, or nothing. Further digits are cut off. -/
def readFraction : List Char → Nat × List Char
  | '.' :: rest | ',' :: rest =>
    let run := rest.takeWhile isPlainDigit
    (digitsValue (run.take 6 ++ List.replicate (6 - run.length) '0'), rest.drop run.length)
  | cs => (0, cs)

/-- Reads a timestamp: date, one character, time of day, fraction and offset. -/
def Timestamp.read (s : String) : Option Timestamp := do
  let (date, rest) ← readDate s.toList
  match rest with
  | [] => some ⟨date, 0, 0, 0, 0, none⟩
  | _ :: rest =>
    let (parts, rest) ← readClock 3 rest
    let (micros, rest) := readFraction rest
    let offset ← readOffset rest
    match parts ++ [0, 0] with
    | hour :: minute :: second :: _ => some ⟨date, hour, minute, second, micros, offset⟩
    | _ => none

end PgVitals.Time
