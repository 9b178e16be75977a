import PgVitals.Number.Digits
/-!
# Intervals

A length of time in days, seconds and microseconds. Only the days carry a sign: an interval of minus
one second is minus one day and 86399 seconds.
-/

namespace PgVitals.Time

open PgVitals.Number

/-- A length of time, with less than a day in `seconds` and less than a second in `micros`. -/
structure Interval where
  days : Int
  seconds : Nat
  micros : Nat
deriving DecidableEq

namespace Interval

/-- The interval of a whole number of seconds. -/
def ofSeconds (n : Int) : Interval :=
  ⟨n.fdiv 86400, (n.fmod 86400).toNat, 0⟩

/-- The interval of a number of days, of seconds and of microseconds, in any amounts. -/
def ofParts (days seconds micros : Int) : Interval :=
  let seconds := seconds + micros.fdiv 1000000
  ⟨days + seconds.fdiv 86400, (seconds.fmod 86400).toNat, (micros.fmod 1000000).toNat⟩

/-- Six digits of microseconds after a point, unless there are none. -/
def fractionText (micros : Nat) : String :=
  if micros = 0 then "" else String.ofList ('.' :: paddedDigits 6 micros)

/-- The text of an interval: the days, when there are some, and the time of day. -/
def text (i : Interval) : String :=
  let days :=
    if i.days = 0 then ""
    else intText i.days ++ (if i.days.natAbs = 1 then " day, " else " days, ")
  days ++ natText (i.seconds / 3600) ++ ":" ++
    String.ofList (paddedDigits 2 (i.seconds / 60 % 60)) ++ ":" ++
    String.ofList (paddedDigits 2 (i.seconds % 60)) ++ fractionText i.micros

/-- How an interval shows within a list: its parts by name, those that are zero left out. -/
def quoted (i : Interval) : String :=
  let parts :=
    (if i.days = 0 then [] else ["days=" ++ intText i.days]) ++
    (if i.seconds = 0 then [] else ["seconds=" ++ natText i.seconds]) ++
    (if i.micros = 0 then [] else ["microseconds=" ++ natText i.micros])
  "datetime.timedelta(" ++ (if parts.isEmpty then "0" else String.intercalate ", " parts) ++ ")"

end Interval

end PgVitals.Time
