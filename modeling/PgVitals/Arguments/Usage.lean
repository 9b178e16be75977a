import PgVitals.Arguments.Grammar
import PgVitals.Text.Layout
import PgVitals.Text.Wrap
/-!
# Usage and help

The usage of a program is one line if it fits on the terminal. Otherwise the options and the
operands start lines of their own, which are indented so that they stand behind the name of the
program, unless that name is too long. The help goes on with a summary and a list of all that can be
given.

* `Grammar.usage` is the usage, of `Switch.usageParts` and `Operand.usageParts` in lines.
* `Grammar.helpText` is the help, and `Entry.lines` are the lines of one of its entries: the
  explanation starts beside the title if there is room.
* `textWidth` is the width there is, and `helpColumn` the column at which explanations start.

Widths are counted in characters. A word that is longer than its line is cut in explanations, and
stands as it is in the usage.
-/

namespace PgVitals.Arguments

open PgVitals.Text

variable {α : Type}

/-- The width of the text on a terminal of so many columns. -/
def textWidth (columns : Int) : Int := columns - 2

/-! ## Usage -/

/-- The words of an option in the usage; brackets around them keep them together. -/
def Switch.usageParts (s : Switch α) : List String :=
  let name := s.names.headD ""
  let words :=
    match s.effect with
    | .value label _ => [name, label]
    | _ => [name]
  if s.required then words else ["[" ++ String.intercalate " " words ++ "]"]

/-- The words a command can be. -/
def choicesText (choices : List (Choice α)) : String :=
  "\x7b" ++ String.intercalate "," (choices.map Choice.word) ++ "\x7d"

/-- The words of an operand in the usage. -/
def Operand.usageParts : Operand α → List String
  | one name _ _ => [name]
  | atMostOne name _ _ => ["[" ++ name ++ "]"]
  | command _ _ choices => [choicesText choices, "..."]

/-- The lines of some words, behind those that are on the line already; `used` is where the line
ends. Lines after the first start at `margin`. -/
def partLines (room margin : Int) (used : Int) (line : List String) :
    List String → List (List String)
  | [] => if line.isEmpty then [] else [line]
  | part :: rest =>
    let size : Int := width part
    if !line.isEmpty && room < used + 1 + size then
      line :: partLines room margin (margin + size) [part] rest
    else partLines room margin (used + 1 + size) (line ++ [part]) rest

/-- Words in lines that all start at a margin. -/
def marginLines (room : Int) (margin : Nat) (parts : List String) : List String :=
  (partLines room margin (margin - 1) [] parts).map fun line =>
    repeated margin ' ' ++ String.intercalate " " line

/-- Words in lines the first of which goes on at `start`, without anything in front of it. -/
def hangingLines (room : Int) (margin start : Nat) (parts : List String) : List String :=
  match partLines room margin (start - 1) [] parts with
  | [] => []
  | first :: rest =>
    String.intercalate " " first ::
      rest.map fun line => repeated margin ' ' ++ String.intercalate " " line

/-- The words in front of the usage. -/
def usageLead : String := "usage: "

/-- The lines of a usage that is too long for one. -/
def usageLines (room : Int) (program : String) (options operands : List String) : List String :=
  let lead := width usageLead
  if 4 * ((lead : Int) + width program) ≤ 3 * room then
    let margin := lead + width program + 1
    if options.isEmpty then hangingLines room margin lead (program :: operands)
    else hangingLines room margin lead (program :: options) ++ marginLines room margin operands
  else
    let together := marginLines room lead (options ++ operands)
    program ::
      (if 1 < together.length then marginLines room lead options ++ marginLines room lead operands
      else together)

/-- The usage of a program. -/
def Grammar.usage (g : Grammar α) (columns : Int) : String :=
  let room := textWidth columns
  let options := g.switches.flatMap Switch.usageParts
  let operands := g.operands.flatMap Operand.usageParts
  let line := String.intercalate " " (g.program :: (options ++ operands))
  if (width usageLead + width line : Int) ≤ room then usageLead ++ line ++ "\n"
  else usageLead ++ String.intercalate "\n" (usageLines room g.program options operands) ++ "\n"

/-! ## Help -/

/-- An entry of the help: what can be given, and what it means. -/
structure Entry where
  indent : Nat
  title : String
  help : String

/-- The entry of an option. -/
def Switch.entry (s : Switch α) : Entry :=
  let shown (name : String) : String :=
    match s.effect with
    | .value label _ => name ++ " " ++ label
    | _ => name
  ⟨2, String.intercalate ", " (s.names.map shown), s.help⟩

/-- The entries of an operand; those of a command's words stand below it. -/
def Operand.entries : Operand α → List Entry
  | one name help _ => [⟨2, name, help⟩]
  | atMostOne name help _ => [⟨2, name, help⟩]
  | command _ help choices =>
    ⟨2, choicesText choices, help⟩ :: choices.map fun c => ⟨4, c.word, c.help⟩

/-- The parts of the help and their entries. -/
def Grammar.chapters (g : Grammar α) : List (String × List Entry) :=
  let listed (c : Chapter) : String × List Entry :=
    (c.heading, (g.switches.filter fun s => s.chapter = c).map Switch.entry)
  (("positional arguments", g.operands.flatMap Operand.entries) ::
    [Chapter.options, .connection].map listed).filter fun c => !c.2.isEmpty

/-- The column at which explanations start: behind the longest title, but not far to the right. -/
def helpColumn (room : Int) (titles : List String) : Int :=
  let longest := (titles.map width).foldl max 0
  min ((longest : Int) + 4) (min 24 (max (room - 20) 4))

/-- The least width of an explanation. -/
def leastWidth : Int := 11

/-- The lines of an entry. The explanation starts beside the title if there is room. -/
def Entry.lines (room column : Int) (e : Entry) : List String :=
  let title := repeated e.indent ' ' ++ e.title
  let margin := repeated column.toNat ' '
  match wrap (max (room - column) leastWidth).toNat e.help with
  | [] => [title]
  | first :: rest =>
    let rest := rest.map (margin ++ ·)
    if (width title : Int) + 2 ≤ column then (padRight title column.toNat ++ first) :: rest
    else title :: (margin ++ first) :: rest

/-- The help of a program. -/
def Grammar.helpText (g : Grammar α) (columns : Int) : String :=
  let room := textWidth columns
  let column := helpColumn room (g.chapters.flatMap fun c => c.2.map Entry.title)
  let summary := String.intercalate "\n" (wrap (max room leastWidth).toNat g.summary) ++ "\n"
  let chapter (c : String × List Entry) : String :=
    c.1 ++ ":\n" ++ String.join ((c.2.flatMap (Entry.lines room column)).map (· ++ "\n"))
  String.intercalate "\n" (g.usage columns :: summary :: g.chapters.map chapter)

/-- What a program shows as its version. In the text for it a mark stands for the program's name. -/
def Grammar.versionText (g : Grammar α) (columns : Int) : String :=
  let text := replace g.version "%(prog)s" g.program
  String.intercalate "\n" (wrap (max (textWidth columns) leastWidth).toNat text) ++ "\n"

end PgVitals.Arguments
