import PgVitals.Text.Quoted
import PgVitals.Time.Calendar
/-!
# Faults

A fault says why a value could not be used: a text that writes no number, a number outside the range
of another kind, a value of the wrong kind. Faults are no failures of a run by themselves; those are
in `PgVitals.Failure`.

* `Fault` lists them, with what their wording needs.
* `Fault.message` is the wording of those that have one, and `Fault.systemReason` what the system
  calls a fault of the file system.

Most faults end a program without a word to its user, as nobody has foreseen them. Some functions
take a fault up and give it a name: then it becomes a cause of a failure. Which ones do so can be
read off where `Run.ofFault` and `Except` meet.
-/

namespace PgVitals

open PgVitals.Text PgVitals.Number PgVitals.Time

/-- Why a value could not be used. -/
inductive Fault where
  /-- The value is of a kind that the operation does not know. -/
  | wrongKind
  /-- The value has no such part. -/
  | missingPart
  /-- There is no entry under this key. -/
  | missingEntry
  /-- There is no item at this position. -/
  | missingItem
  /-- The bytes are no text. -/
  | undecodable
  /-- There is no such file. -/
  | missingFile
  /-- The path names a directory. -/
  | isDirectory
  /-- A part of the path is no directory. -/
  | notDirectory
  /-- The path, or a name in it, is too long. -/
  | nameTooLong
  /-- Nobody knows where the home of the user is. -/
  | homeUnknown
  | divisionByZero
  /-- A decimal that is no number cannot be ordered. -/
  | unordered
  /-- Something is nested too deeply. -/
  | tooDeep
  | notAnInteger (quoted : String)
  /-- A text that writes no integer in some base other than ten. -/
  | notInBase (base : Nat) (quoted : String)
  | notANumber (quoted : String)
  | tooManyDigits (count : Nat)
  /-- A whole number with too many digits to be written. -/
  | tooLongToWrite
  /-- A text where a number of decimal places is asked for. -/
  | placesOfText
  /-- A number that no character has. -/
  | noCharacter
  /-- A number of a character that is far outside the range. -/
  | characterRange
  | nanToInteger
  | infinityToInteger
  | decimalNanToInteger
  | decimalInfinityToInteger
  | decimalNanToFloat
  | integerTooLarge
  /-- A file descriptor outside the range of descriptors. -/
  | descriptorRange (negative : Bool)
  | unknownDomain (quoted : String)
  | zeroStep
  | tooFewItems (expected found : Nat)
  | tooManyItems (expected : Nat)
  | calendar (fault : CalendarFault)
  | embeddedNull
  /-- A caller's own objection. -/
  | refused (text : String)
deriving DecidableEq

/-- A text cut to its first characters. -/
def shortened (limit : Nat) (s : String) : String := String.ofList (s.toList.take limit)

/-- The wording of a fault; faults of kind carry none. -/
def Fault.message : Fault → Option String
  | notAnInteger quoted => some ("invalid literal for int() with base 10: " ++ shortened 200 quoted)
  | notInBase base quoted =>
    some ("invalid literal for int() with base " ++ natText base ++ ": " ++ shortened 200 quoted)
  | notANumber quoted => some ("could not convert string to float: " ++ quoted)
  | tooManyDigits count =>
    some ("Exceeds the limit (4300 digits) for integer string conversion: value has " ++
      natText count ++ " digits; use sys.set_int_max_str_digits() to increase the limit")
  | tooLongToWrite =>
    some ("Exceeds the limit (4300 digits) for integer string conversion; " ++
      "use sys.set_int_max_str_digits() to increase the limit")
  | placesOfText => some "Unknown format code 'f' for object of type 'str'"
  | noCharacter => some "chr() arg not in range(0x110000)"
  | characterRange => some "Python int too large to convert to C int"
  | nanToInteger => some "cannot convert float NaN to integer"
  | infinityToInteger => some "cannot convert float infinity to integer"
  | decimalNanToInteger => some "cannot convert NaN to integer"
  | decimalInfinityToInteger => some "cannot convert Infinity to integer"
  | decimalNanToFloat => some "cannot convert signaling NaN to float"
  | integerTooLarge => some "int too large to convert to float"
  | descriptorRange false => some "fd is greater than maximum"
  | descriptorRange true => some "fd is less than minimum"
  | unknownDomain quoted => some (quoted ++ " is not a valid Domain")
  | zeroStep => some "range() arg 3 must not be zero"
  | tooFewItems expected found =>
    some ("not enough values to unpack (expected " ++ natText expected ++ ", got " ++
      natText found ++ ")")
  | tooManyItems expected =>
    some ("too many values to unpack (expected " ++ natText expected ++ ")")
  | calendar fault => some fault.message
  | embeddedNull => some "embedded null byte"
  | refused text => some text
  | _ => none

/-- What the system calls a fault of the file system. -/
def Fault.systemReason : Fault → Option String
  | missingFile => some "No such file or directory"
  | isDirectory => some "Is a directory"
  | notDirectory => some "Not a directory"
  | nameTooLong => some "File name too long"
  | _ => none

end PgVitals
