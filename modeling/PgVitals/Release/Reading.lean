import PgVitals.Failure
import PgVitals.Text.Word
import PgVitals.Value
/-!
# Reading releases

A server names its release in a sentence, such as `PostgreSQL 14.5 on x86_64`; on the command line a
release is written bare, such as `14.5`.

* `Release.identified?` finds the digits of a release in an identification. They begin its second
  word, and a minor number counts only if the release ends behind it: `Release.endsRelease`.
* `Release.bare?` finds those of a bare release, with blanks around it.
* `Release.ofDigits` makes a release of digits. There may be too many of them to be read, which is a
  cause of its own.
* `Release.ofIdentification`, `Release.ofText` and `Release.ofCell` are the three ways to a release.

Where more than one reading fits, the first is taken that a search from left to right comes to:
digits as long as possible, and the release without its minor number only where it does not end
behind that. Digits and blanks are those of any script.
-/

namespace PgVitals.Release

open PgVitals.Text PgVitals.Number

/-- The number that digits of any script write. -/
def numberOf (cs : List Char) : Nat :=
  cs.foldl (fun n c => 10 * n + (digit? c).getD 0) 0

/-- A number out of digits, unless there are too many of them. -/
def readNumber (cs : List Char) : Except Fault Int :=
  if digitLimit < cs.length then .error (.tooManyDigits cs.length) else .ok (numberOf cs)

/-- Whether no word character follows. -/
def endsWord : List Char → Bool
  | [] => true
  | c :: _ => !isWordCharacter c

/-- What follows `word`, if the text begins with it. -/
def afterWord? (word : String) (cs : List Char) : Option (List Char) :=
  if word.toList.isPrefixOf cs then some (cs.drop word.toList.length) else none

/-- What may follow the numbers of a release: the end of the word, or the mark of a development,
beta or candidate release, the latter two with a number of their own, and then the end of the
word. -/
def endsRelease (cs : List Char) : Bool :=
  endsWord cs ||
    (match afterWord? "devel" cs with
      | some rest => endsWord rest
      | none => false) ||
    (match afterWord? "beta" cs with
      | some rest => endsWord (rest.dropWhile isDigit)
      | none => false) ||
    (match afterWord? "rc" cs with
      | some rest => endsWord (rest.dropWhile isDigit)
      | none => false)

/-- The digits of a minor number behind a point, and what follows them. -/
def minorDigits? : List Char → Option (List Char × List Char)
  | '.' :: rest =>
    let ds := rest.takeWhile isDigit
    if ds.isEmpty then none else some (ds, rest.dropWhile isDigit)
  | _ => none

/-- The digits of major and minor number in an identification: they begin its second word. A minor
number counts only if the release ends behind it. -/
def identified? (cs : List Char) : Option (List Char × List Char) :=
  let line := cs.dropWhile isBlank
  let product := line.takeWhile fun c => !isBlank c
  let gap := line.dropWhile fun c => !isBlank c
  let rest := gap.dropWhile isBlank
  let major := rest.takeWhile isDigit
  let tail := rest.dropWhile isDigit
  if product.isEmpty || major.isEmpty then none
  else
    let short := if endsRelease tail then some (major, []) else none
    match minorDigits? tail with
    | some (minor, after) => if endsRelease after then some (major, minor) else short
    | none => short

/-- A release out of the digits of its numbers; no minor digits mean zero. -/
def ofDigits (major minor : List Char) : Except Failure Release := do
  let m ← (readNumber major).mapError Failure.fault
  let n ← (readNumber minor).mapError Failure.fault
  return ⟨m, n⟩

/-- Reads what a server calls itself. -/
def ofIdentification (s : String) : Except Failure Release :=
  if s.toList.isEmpty then .error (.releaseUnknown .empty)
  else
    match identified? s.toList with
    | some (major, minor) => ofDigits major minor
    | none => .error (.releaseUnknown (.unreadable s))

/-- Reads the cell in which a server says what it calls itself. -/
def ofCell : Value → Except Failure Release
  | .text s => ofIdentification s
  | v => .error (if v.truthy then .fault .wrongKind else .releaseUnknown .empty)

/-- The digits of a bare release, with blanks around it. -/
def bare? (cs : List Char) : Option (List Char × List Char) :=
  let rest := cs.dropWhile isBlank
  let major := rest.takeWhile isDigit
  let tail := rest.dropWhile isDigit
  if major.isEmpty then none
  else
    match minorDigits? tail with
    | some (minor, after) => if after.all isBlank then some (major, minor) else none
    | none => if tail.all isBlank then some (major, []) else none

/-- Reads a bare release. -/
def ofText (s : String) : Except Failure Release :=
  match bare? s.toList with
  | some (major, minor) => ofDigits major minor
  | none => .error (.releaseUnknown (.notMajorMinor (quote s)))

/-- Reads a release as it is given on the command line. -/
def ofValue : Value → Except Failure Release
  | .text s => ofText s
  | v => .error (if v.truthy then .fault .wrongKind else .releaseUnknown (.notMajorMinor v.quoted))

end PgVitals.Release
