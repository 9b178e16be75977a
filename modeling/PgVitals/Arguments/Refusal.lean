import PgVitals.Number.Reading
import PgVitals.Text.Quoted
/-!
# Refusals of a command line

What can be wrong with the arguments of a program. A complaint is about the text of one argument; a
refusal is the reason why a whole command line is not accepted.

* `Complaint` and `Refusal` list them, and `Complaint.message` and `Refusal.message` are their
  wordings.
* `Ending` is how the reading ends when there is nothing to run: with a refusal, or with the help or
  the version that was asked for.
* `positive`, `process` and `seconds` judge the texts of numbers.
-/

namespace PgVitals.Arguments

open PgVitals.Text PgVitals.Number

/-- What is wrong with the text of an argument. -/
inductive Complaint where
  | notWhole (text : String)
  | notPositive (text : String)
  | notNumber (text : String)
  | negative (text : String)
  | notProcess (text : String)
  | unknownCommand (text : String) (known : List String)
  /-- The text is missing. -/
  | missing
  /-- The argument takes no text. -/
  | unwanted (text : String)
deriving DecidableEq

/-- Why a command line is not accepted. -/
inductive Refusal where
  /-- An argument cannot be used. -/
  | argument (name : String) (complaint : Complaint)
  /-- An abbreviation could stand for several options. -/
  | ambiguous (text : String) (candidates : List String)
  /-- Arguments that are needed are not there. -/
  | absent (names : List String)
  /-- Nothing takes these arguments. -/
  | unrecognized (texts : List String)
deriving DecidableEq

/-- Texts with commas between them. -/
def enumeration (texts : List String) : String := String.intercalate ", " texts

/-- The wording of a complaint. -/
def Complaint.message : Complaint → String
  | notWhole text => "invalid integer value: " ++ quote text
  | notPositive text => "must be a positive integer: " ++ quote text
  | notNumber text => "invalid number: " ++ quote text
  | negative text => "must not be negative: " ++ quote text
  | notProcess text => "invalid int value: " ++ quote text
  | unknownCommand text known =>
    "invalid choice: " ++ quote text ++ " (choose from " ++ enumeration (known.map quote) ++ ")"
  | missing => "expected one argument"
  | unwanted text => "ignored explicit argument " ++ quote text

/-- The wording of a refusal. -/
def Refusal.message : Refusal → String
  | argument name complaint => "argument " ++ name ++ ": " ++ complaint.message
  | ambiguous text candidates =>
    "ambiguous option: " ++ text ++ " could match " ++ enumeration candidates
  | absent names => "the following arguments are required: " ++ enumeration names
  | unrecognized texts => "unrecognized arguments: " ++ String.intercalate " " texts

/-- How the reading of a command line ends when there is nothing to run. -/
inductive Ending where
  /-- The user asked for a text. -/
  | shown (text : String)
  /-- The command line is refused; the usage tells what could have been given. -/
  | refused (usage : String) (refusal : Refusal)
deriving DecidableEq

/-! ## Numbers -/

/-- A whole number above zero. -/
def positive (text : String) : Except Complaint Int :=
  match readInt text with
  | .error _ => .error (.notWhole text)
  | .ok n => if n ≤ 0 then .error (.notPositive text) else .ok n

/-- The number of a process. -/
def process (text : String) : Except Complaint Int :=
  match readInt text with
  | .error _ => .error (.notProcess text)
  | .ok n => .ok n

/-- A number of seconds, not below zero. -/
def seconds (text : String) : Except Complaint Float :=
  match readFloat text with
  | none => .error (.notNumber text)
  | some x => if x < 0.0 then .error (.negative text) else .ok x

end PgVitals.Arguments
