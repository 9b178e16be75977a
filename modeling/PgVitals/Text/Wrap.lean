import PgVitals.Text.Digit
import PgVitals.Text.Split
import PgVitals.Text.Word
/-!
# Wrapping

A text is cut into pieces behind which a line may end: words, the spaces between them, and the parts
of words with hyphens. Lines take pieces as long as they fit. A piece that is longer than a line is
broken, behind a hyphen if it has one in the right place.

* `joinSpaces` makes one space of every run of spaces, before anything is cut.
* `pieces` are the pieces of a text, which follow each other without gaps. `mayHyphenate` and
  `mayFollowHyphen` say where a word may end behind a hyphen.
* `takeLine` takes the pieces of one line, and `wrap` are the lines of a text, none longer than its
  width.

Widths are counted in characters. Blank pieces at either end of a line are left out.
-/

namespace PgVitals.Text

/-! ## Spaces -/

/-- A space, a tabulator, or one of the ASCII characters that end a line or a page. -/
def isSpace (c : Char) : Bool := c == ' ' || (9 ≤ c.toNat && c.toNat ≤ 13)

/-- Every run of spaces as one space. -/
def joinSpaces : List Char → List Char
  | [] => []
  | c :: rest =>
    if isSpace c then
      match joinSpaces rest with
      | ' ' :: more => ' ' :: more
      | more => ' ' :: more
    else c :: joinSpaces rest

/-! ## Pieces -/

/-- A letter or the underscore. -/
def isLetter (c : Char) : Bool := isWordCharacter c && (digit? c).isNone

/-- A character that may stand before a dash between words. -/
def isBeforeDash (c : Char) : Bool :=
  isWordCharacter c || ['!', '"', '\'', '&', '.', ',', '?'].contains c

/-- The number of hyphens in front, if they are a dash: two at least, and a word follows. -/
def dashLength (cs : List Char) : Option Nat :=
  let n := (cs.takeWhile (· == '-')).length
  if 2 ≤ n && (cs.drop n).head?.any isWordCharacter then some n else none

/-- Whether a hyphen may end a line behind these characters, the last of which comes first. -/
def mayHyphenate : List Char → Bool
  | a :: b :: rest =>
    isLetter a && (isLetter b || (b == '-' && rest.head?.any isLetter))
  | _ => false

/-- Whether the part behind a hyphen is long enough for a line of its own. -/
def mayFollowHyphen : List Char → Bool
  | a :: b :: rest => isLetter a && (isLetter b || (b == '-' && rest.head?.any isLetter))
  | _ => false

/-- How many characters still belong to the word that the characters before, the last one first, are
in the middle of. -/
def wordRest (before : List Char) : List Char → Nat
  | [] => 0
  | c :: rest =>
    if c == '-' && mayHyphenate before && mayFollowHyphen rest then 1
    else if isSpace c then 0
    else if before.head?.any isBeforeDash && (dashLength (c :: rest)).isSome then 0
    else 1 + wordRest (c :: before) rest

/-- The length of the piece that starts with `c` and goes on in `rest`, less one. -/
def pieceRest (before : List Char) (c : Char) (rest : List Char) : Nat :=
  if isSpace c then (rest.takeWhile isSpace).length
  else
    match if before.head?.any isBeforeDash then dashLength (c :: rest) else none with
    | some n => n - 1
    | none => wordRest (c :: before) rest

/-- The pieces of a text, which follow each other without gaps. -/
def pieces (before : List Char) : List Char → List (List Char)
  | [] => []
  | c :: rest =>
    let n := pieceRest before c rest
    (c :: rest.take n) :: pieces ((c :: rest.take n).reverse ++ before) (rest.drop n)
termination_by cs => cs.length
decreasing_by simp only [List.length_drop, List.length_cons]; omega

/-! ## Lines -/

/-- The pieces in front that fit into so many characters, and the others. -/
def fitting : Nat → List (List Char) → List (List Char) × List (List Char)
  | _, [] => ([], [])
  | room, piece :: rest =>
    if piece.length ≤ room then
      let (line, others) := fitting (room - piece.length) rest
      (piece :: line, others)
    else ([], piece :: rest)

/-- How much of a long piece goes into the room that is left: all there is room for, or up to the
last hyphen within it that has something else before it. -/
def breakPoint (room : Nat) (piece : List Char) : Nat :=
  let front := piece.take room
  let tail := (front.reverse.takeWhile (· != '-')).length
  let hyphen := front.length - tail
  if piece.length ≤ room || hyphen ≤ 1 || (front.take (hyphen - 1)).all (· == '-') then room
  else hyphen

/-- A line without a blank piece at its end. -/
def withoutBlankEnd (line : List (List Char)) : List (List Char) :=
  if line.getLast?.any (·.all isBlank) then line.dropLast else line

/-- Pieces without a blank one in front. -/
def withoutBlankFront : List (List Char) → List (List Char)
  | [] => []
  | piece :: rest => if piece.all isBlank then rest else piece :: rest

/-- The first line of some pieces, and the pieces behind it. -/
def takeLine (width : Nat) (all : List (List Char)) : List (List Char) × List (List Char) :=
  match fitting width all with
  | (line, []) => (withoutBlankEnd line, [])
  | (line, piece :: rest) =>
    if width < piece.length then
      let n := breakPoint (width - line.flatten.length) piece
      (withoutBlankEnd (line ++ [piece.take n]), piece.drop n :: rest)
    else (withoutBlankEnd line, piece :: rest)

/-- The lines of some pieces. Each turn uses up a piece or a character, so `fuel` lasts if it
exceeds the number of both. Only the first line may start with a blank. -/
def linesOf (width : Nat) : Nat → Bool → List (List Char) → List (List Char)
  | 0, _, _ => []
  | fuel + 1, first, all =>
    match if first then all else withoutBlankFront all with
    | [] => []
    | all =>
      match takeLine width all with
      | ([], rest) => linesOf width fuel first rest
      | (line, rest) => line.flatten :: linesOf width fuel false rest

/-- The lines of a text, none longer than `width`. -/
def wrap (width : Nat) (s : String) : List String :=
  let text := trimBy isBlank (joinSpaces s.toList)
  (linesOf width (2 * text.length + 1) true (pieces [] text)).map String.ofList

end PgVitals.Text
