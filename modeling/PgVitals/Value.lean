import PgVitals.Fault
import PgVitals.Number.Fixed
/-!
# Values

The values a server sends as cells and a configuration file holds: nulls, numbers of three kinds,
texts, times, and lists and mappings of values. A value has a text of its own and a quoted form, in
which it stands within a list.

* `Value.shown` is the text of a value, and `Value.written` that text where there is one: a whole
  number of more than 4300 digits is refused, on its own and within a list. `Value.isWritable` tells
  these values apart.
* `Value.toInt` and `Value.toFloat` are the numbers in a value, with the faults of texts that write
  none and of numbers out of range.
* `Value.same` and `Value.before` compare values. Numbers of different kinds are equal when their
  sizes are; most values of different kinds have no order, and comparing them is a fault.
* `Value.items` and `Value.members` go through a value, and `Value.lookup?` finds what is under a
  key.

Options and settings that are named in messages are written with `Value.shown`, without the limit. A
whole number of that many digits can get there in one way only: a settings file has written it in a
base that is a power of two, for in base ten it is refused when it is read.
-/

namespace PgVitals

open PgVitals.Text PgVitals.Number PgVitals.Time

/-- A cell of a result set, or a node of a configuration file. -/
inductive Value where
  | null
  | bool (b : Bool)
  | int (n : Int)
  | float (x : Float)
  | decimal (d : Decimal)
  | text (s : String)
  | bytes (bs : List UInt8)
  | timestamp (t : Timestamp)
  | date (d : Date)
  | interval (i : Interval)
  | list (items : List Value)
  | pair (first second : Value)
  | map (entries : List (Value × Value))
  | set (items : List Value)
  /-- Stands where a list or mapping holds itself. -/
  | loop (isMap : Bool)
deriving Inhabited

namespace Value

/-! ## Texts -/

/-- The text of a truth value. -/
def boolText (b : Bool) : String := if b then "True" else "False"

mutual

/-- How a value shows within a list. -/
def quoted : Value → String
  | null => "None"
  | bool b => boolText b
  | int n => intText n
  | float x => floatText x
  | decimal d => "Decimal('" ++ d.text ++ "')"
  | text s => quote s
  | bytes bs => quoteBytes bs
  | timestamp t => t.quoted
  | date d => d.quoted
  | interval i => i.quoted
  | list items => "[" ++ quotedItems items ++ "]"
  | pair first second => "(" ++ first.quoted ++ ", " ++ second.quoted ++ ")"
  | map entries => "\x7b" ++ quotedEntries entries ++ "\x7d"
  | set [] => "set()"
  | set items => "\x7b" ++ quotedItems items ++ "\x7d"
  | loop false => "[...]"
  | loop true => "\x7b...\x7d"

/-- Values joined by commas. -/
def quotedItems : List Value → String
  | [] => ""
  | [v] => v.quoted
  | v :: rest => v.quoted ++ ", " ++ quotedItems rest

/-- Keys and values joined by colons, and the pairs by commas. -/
def quotedEntries : List (Value × Value) → String
  | [] => ""
  | [(k, v)] => k.quoted ++ ": " ++ v.quoted
  | (k, v) :: rest => k.quoted ++ ": " ++ v.quoted ++ ", " ++ quotedEntries rest

end

/-- The text of a value on its own. -/
def shown : Value → String
  | decimal d => d.text
  | text s => s
  | timestamp t => t.text
  | date d => d.text
  | interval i => i.text
  | v => v.quoted

/-- The text of a whole number, unless it has too many digits. -/
def intWritten (n : Int) : Except Fault String :=
  if Number.isWritable n then .ok (intText n) else .error .tooLongToWrite

mutual

/-- Whether no whole number in a value has too many digits to be written. -/
def isWritable : Value → Bool
  | int n => Number.isWritable n
  | list items => areWritable items
  | pair first second => first.isWritable && second.isWritable
  | map entries => entriesAreWritable entries
  | set items => areWritable items
  | _ => true

/-- Whether all values of a list can be written. -/
def areWritable : List Value → Bool
  | [] => true
  | v :: rest => v.isWritable && areWritable rest

/-- Whether all keys and values of entries can be written. -/
def entriesAreWritable : List (Value × Value) → Bool
  | [] => true
  | (k, v) :: rest => k.isWritable && v.isWritable && entriesAreWritable rest

end

/-- The text of a value on its own, unless a whole number in it has too many digits. -/
def written (v : Value) : Except Fault String :=
  if v.isWritable then .ok v.shown else .error .tooLongToWrite

theorem written_eq {v : Value} {s : String} (h : v.written = .ok s) : v.shown = s := by
  unfold written at h
  split at h
  · exact Except.ok.inj h
  · cases h

/-! ## Truth and kinds -/

/-- Whether a value counts as true: null, zero and what is empty do not. -/
def truthy : Value → Bool
  | null => false
  | bool b => b
  | int n => n != 0
  | float x => !(x == 0.0)
  | decimal d => !d.isZero
  | text s => !s.isEmpty
  | bytes bs => !bs.isEmpty
  | interval i => !(i.days == 0 && i.seconds == 0 && i.micros == 0)
  | list items => !items.isEmpty
  | map entries => !entries.isEmpty
  | set items => !items.isEmpty
  | _ => true

/-- The whole number of an integer or a truth value, and of nothing else. -/
def whole? : Value → Option Int
  | int n => some n
  | bool b => some (if b then 1 else 0)
  | _ => none

/-- Whether a value may be a key or a member of a set: nothing that changes, and no signalling
decimal. -/
def isKey : Value → Bool
  | list _ => false
  | map _ => false
  | set _ => false
  | loop _ => false
  | pair first second => first.isKey && second.isKey
  | decimal (.signalling _ _) => false
  | _ => true

/-! ## Numbers out of values -/

/-- The characters of bytes, one for each. Bytes that are no ASCII stand for no character that a
number has. -/
def bytesText (bs : List UInt8) : String :=
  String.ofList (bs.map fun b => if b < 128 then Char.ofNat b.toNat else Char.ofNat 0xfffd)

/-- A whole number out of a text; `quoted` names the text in the fault. -/
def intOfText (quoted s : String) : Except Fault Int :=
  match readInt s with
  | .ok n => .ok n
  | .error .malformed => .error (.notAnInteger quoted)
  | .error (.tooLong count) => .error (.tooManyDigits count)

/-- A double out of a text. -/
def floatOfText (quoted s : String) : Except Fault Float :=
  match readFloat s with
  | some x => .ok x
  | none => .error (.notANumber quoted)

/-- The whole number of a value, fractions cut off. -/
def toInt : Value → Except Fault Int
  | bool b => .ok (if b then 1 else 0)
  | int n => .ok n
  | float x =>
    match Binary.ofFloat x with
    | .nan => .error .nanToInteger
    | .infinite _ => .error .infinityToInteger
    | .finite d => .ok d.truncate
  | decimal (.finite negative coefficient exponent) =>
    .ok (Decimal.truncate negative coefficient exponent)
  | decimal (.infinite _) => .error .decimalInfinityToInteger
  | decimal _ => .error .decimalNanToInteger
  | text s => intOfText (quote s) s
  | bytes bs => intOfText (quoteBytes bs) (bytesText bs)
  | _ => .error .wrongKind

/-- The double nearest to a value. -/
def toFloat : Value → Except Fault Float
  | bool b => .ok (if b then 1.0 else 0.0)
  | int n =>
    match floatOfInt n with
    | some x => .ok x
    | none => .error .integerTooLarge
  | float x => .ok x
  | decimal (.signalling _ _) => .error .decimalNanToFloat
  | decimal d => .ok (floatOfDecimal d)
  | text s => floatOfText (quote s) s
  | bytes bs => floatOfText (quoteBytes bs) (bytesText bs)
  | _ => .error .wrongKind

/-! ## Equality and order -/

/-- The exact size of a number. -/
inductive Magnitude where
  | nan
  | infinite (negative : Bool)
  | ratio (num : Int) (den : Nat)

/-- The exact size of a value that is a number. -/
def magnitude? : Value → Option Magnitude
  | bool b => some (.ratio (if b then 1 else 0) 1)
  | int n => some (.ratio n 1)
  | float x =>
    match Binary.ofFloat x with
    | .nan => some .nan
    | .infinite negative => some (.infinite negative)
    | .finite d => some (.ratio (if d.negative then -d.numerator else d.numerator) d.denominator)
  | decimal (.finite negative coefficient exponent) =>
    let (num, den) := Decimal.fraction coefficient exponent
    some (.ratio (if negative then -num else num) den)
  | decimal (.infinite negative) => some (.infinite negative)
  | decimal _ => some .nan
  | _ => none

/-- How two numbers compare, unless one of them is no number. -/
def Magnitude.compare : Magnitude → Magnitude → Option Ordering
  | nan, _ => none
  | _, nan => none
  | infinite a, infinite b => some (if a == b then .eq else if a then .lt else .gt)
  | infinite a, ratio _ _ => some (if a then .lt else .gt)
  | ratio _ _, infinite b => some (if b then .gt else .lt)
  | ratio a b, ratio c d =>
    some (if a * d < c * b then .lt else if a * d = c * b then .eq else .gt)

/-- Whether the two numbers are equal. -/
def Magnitude.same (a b : Magnitude) : Bool := a.compare b == some .eq

mutual

/-- Whether two values are equal. Numbers of different kinds are equal when their sizes are, and
`NaN` equals nothing. -/
def same : Value → Value → Bool
  | null, null => true
  | text a, text b => a == b
  | bytes a, bytes b => a == b
  | timestamp a, timestamp b =>
    a.offset.isSome == b.offset.isSome && a.instant == b.instant
  | date a, date b => a == b
  | interval a, interval b => a == b
  | list as, list bs => sameItems as bs
  | pair a b, pair c d => a.same c && b.same d
  | map as, map bs => as.length == bs.length && sameEntries as bs
  | set as, set bs => as.length == bs.length && sameItems as bs
  | a, b =>
    match a.magnitude?, b.magnitude? with
    | some m, some n => m.same n
    | _, _ => false

/-- Whether two lists are equal item by item. -/
def sameItems : List Value → List Value → Bool
  | [], [] => true
  | a :: as, b :: bs => a.same b && sameItems as bs
  | _, _ => false

/-- Whether every entry of the first list is among those of the second. -/
def sameEntries : List (Value × Value) → List (Value × Value) → Bool
  | [], _ => true
  | (k, v) :: rest, bs => (bs.any fun b => k.same b.1 && v.same b.2) && sameEntries rest bs

end

mutual

/-- Whether a value can be written out to its end: it holds itself nowhere. -/
def isFinite : Value → Bool
  | list items => areFinite items
  | pair first second => first.isFinite && second.isFinite
  | map entries => entriesAreFinite entries
  | set items => areFinite items
  | loop _ => false
  | _ => true

/-- Whether all values of a list are finite. -/
def areFinite : List Value → Bool
  | [] => true
  | v :: rest => v.isFinite && areFinite rest

/-- Whether all keys and values of entries are finite. -/
def entriesAreFinite : List (Value × Value) → Bool
  | [] => true
  | (k, v) :: rest => k.isFinite && v.isFinite && entriesAreFinite rest

end

/-- Whether a value is a decimal. -/
def isDecimal : Value → Bool
  | decimal _ => true
  | _ => false

/-- Whether one value comes before another, where the two can be ordered: numbers by size, texts by
code points, times by moment. `NaN` is before nothing, but among decimals it has no order at all. -/
def before : Value → Value → Except Fault Bool
  | text a, text b => .ok (decide (a.toList < b.toList))
  | date a, date b => .ok (decide (a.dayNumber < b.dayNumber))
  | timestamp a, timestamp b =>
    if a.offset.isSome == b.offset.isSome then .ok (decide (a.instant < b.instant))
    else .error .wrongKind
  | interval a, interval b =>
    .ok (decide ((a.days * 86400 + a.seconds) * 1000000 + a.micros <
      (b.days * 86400 + b.seconds) * 1000000 + b.micros))
  | a, b =>
    match a.magnitude?, b.magnitude? with
    | some m, some n =>
      match m.compare n with
      | some order => .ok (order == .lt)
      | none => if a.isDecimal || b.isDecimal then .error .unordered else .ok false
    | _, _ => .error .wrongKind

/-! ## Members -/

/-- The items one gets by going through a value: the characters of a text, the keys of a mapping. -/
def items : Value → Except Fault (List Value)
  | text s => .ok (s.toList.map fun c => text (String.ofList [c]))
  | bytes bs => .ok (bs.map fun b => int b.toNat)
  | list vs => .ok vs
  | pair first second => .ok [first, second]
  | set vs => .ok vs
  | map entries => .ok (entries.map Prod.fst)
  | _ => .error .wrongKind

/-- The items of a value as members of a set. -/
def members (v : Value) : Except Fault (List Value) := do
  let vs ← v.items
  if vs.all isKey then return vs else throw .wrongKind

/-! ## Mappings -/

/-- The value under a text key, among the entries of a mapping. -/
def lookup? (key : String) (entries : List (Value × Value)) : Option Value :=
  (entries.find? fun entry =>
    match entry.1 with
    | text s => s == key
    | _ => false).map Prod.snd

end Value

end PgVitals
