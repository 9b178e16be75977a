import PgVitals.Text.Word
/-!
# Terminal escapes

A terminal takes some characters behind an escape character as a command. One kind of command is an
opening bracket, parameters, intermediates and one final character, of which nothing shows. The
other kind makes a link of a text: only the text shows, and neither the address nor the marks around
them.

* `command?` is the command behind an escape character, where there is one: how many characters it
  has, and those that show.
* `visible` is what a terminal shows of a text, and `visibleWidth` how many characters that are.

Only the width of a table depends on this. A command that is broken off is no command, and all its
characters show.
-/

namespace PgVitals.Text

/-- The escape character. -/
def escape : Char := '\x1b'

/-- A command behind an escape character: how many characters it has, and those that show. -/
structure Command where
  length : Nat
  shown : List Char
deriving DecidableEq

/-! ## Controls -/

/-- A parameter of a terminal command. -/
def isEscapeParameter (c : Char) : Bool := '0' ≤ c && c ≤ '?'

/-- An intermediate character of a terminal command. -/
def isEscapeIntermediate (c : Char) : Bool := ' ' ≤ c && c ≤ '/'

/-- The last character of a terminal command. -/
def isEscapeFinal (c : Char) : Bool := '@' ≤ c && c ≤ '~'

/-- A control behind its bracket. -/
def control? (cs : List Char) : Option Command :=
  let parameters := cs.takeWhile isEscapeParameter
  let rest := cs.drop parameters.length
  let intermediates := rest.takeWhile isEscapeIntermediate
  match rest.drop intermediates.length with
  | c :: _ =>
    if isEscapeFinal c then some ⟨parameters.length + intermediates.length + 2, []⟩ else none
  | [] => none

/-! ## Links -/

/-- Where one is among the parameters of a link, which are pairs of words with an equals sign
between them. A colon may stand behind each pair. -/
inductive LinkPlace where
  /-- In front of a pair. -/
  | pair
  | key
  /-- Behind the equals sign. -/
  | value
  /-- Behind one character of a value. -/
  | short
  /-- Behind more characters, the last of which may belong to the key of the next pair. -/
  | long
deriving DecidableEq

/-- The place behind a character, if it may stand there. -/
def LinkPlace.after (c : Char) : LinkPlace → Option LinkPlace
  | pair => if isWordCharacter c then some key else none
  | key => if isWordCharacter c then some key else if c = '=' then some value else none
  | value => if isWordCharacter c then some short else none
  | short => if isWordCharacter c then some long else if c = ':' then some pair else none
  | long =>
    if isWordCharacter c then some long
    else if c = ':' then some pair
    else if c = '=' then some value
    else none

/-- Whether the parameters may end here. -/
def LinkPlace.mayEnd : LinkPlace → Bool
  | pair => true
  | short => true
  | long => true
  | _ => false

/-- The number of the parameters' characters in front of the semicolon that ends them. -/
def linkParameters? : LinkPlace → List Char → Option Nat
  | _, [] => none
  | place, c :: rest =>
    if c = ';' then if place.mayEnd then some 0 else none
    else
      match place.after c with
      | some next => (linkParameters? next rest).map (· + 1)
      | none => none

/-- The characters up to an escape character, if there are any and `mark` follows that one; and what
is behind the mark. -/
def untilMark? (mark : List Char) (cs : List Char) : Option (List Char × List Char) :=
  let body := cs.takeWhile (· != escape)
  let rest := cs.drop body.length
  if !body.isEmpty && (escape :: mark).isPrefixOf rest then
    some (body, rest.drop (mark.length + 1))
  else none

/-- A link behind its bracket. -/
def link? (cs : List Char) : Option Command :=
  match cs with
  | '8' :: ';' :: rest => do
    let parameters ← linkParameters? .pair rest
    let (_, behindAddress) ← untilMark? ['\\'] (rest.drop (parameters + 1))
    let (shown, behind) ← untilMark? [']', '8', ';', ';', escape, '\\'] behindAddress
    return ⟨cs.length - behind.length + 1, shown⟩
  | _ => none

/-! ## What shows -/

/-- The command behind an escape character, where there is one. -/
def command? : List Char → Option Command
  | '[' :: rest => control? rest
  | ']' :: rest => link? rest
  | _ => none

/-- The characters that a terminal shows, after passing over the first ones. -/
def visibleAfter : Nat → List Char → List Char
  | _, [] => []
  | n + 1, _ :: rest => visibleAfter n rest
  | 0, c :: rest =>
    if c = escape then
      match command? rest with
      | some command => command.shown ++ visibleAfter command.length rest
      | none => c :: visibleAfter 0 rest
    else c :: visibleAfter 0 rest

/-- What a terminal shows of a text. -/
def visible (s : String) : String := String.ofList (visibleAfter 0 s.toList)

/-- Whether a text holds commands to a terminal. -/
def hasEscapes (s : String) : Bool := visible s != s

/-- The number of characters that a terminal shows. -/
def visibleWidth (s : String) : Nat := (visibleAfter 0 s.toList).length

/-- The number of characters that a terminal does not show. -/
def invisibleWidth (s : String) : Nat := s.toList.length - visibleWidth s

end PgVitals.Text
