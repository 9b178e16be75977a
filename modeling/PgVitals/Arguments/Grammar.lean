import PgVitals.Arguments.Refusal
import PgVitals.Value
/-!
# Grammars of a command line

A grammar lists what a program can be given: options, which are named by words that start with a
hyphen, and operands, which are known by their place. Each of them changes a value of type `α`, in
which the command line is collected.

* `Switch` is an option, with its names, its effect and the text of the help; `Effect` says whether
  it takes a text and what it does with it.
* `Operand` is an argument that is known by its place: a single one, one that may be left out, or a
  word that selects what is done with all the arguments behind it.
* `Grammar` is all that a program can be given.

Options that exclude one another, lists of operands without an end, and defaults in the text of the
help are not part of a grammar, as no program here needs them.
-/

namespace PgVitals.Arguments

/-- What an option does. -/
inductive Effect (α : Type) where
  /-- Shows the help. -/
  | help
  /-- Shows the version. -/
  | version
  /-- Says something by being there. -/
  | mark (set : α → α)
  /-- Takes a text, or nothing where the text is two hyphens; `label` stands for it in the help. -/
  | value (label : String) (take : Option String → α → Except Complaint α)

/-- The part of the help that lists an option. -/
inductive Chapter where
  | options | connection
deriving DecidableEq

/-- The heading of a part of the help. -/
def Chapter.heading : Chapter → String
  | options => "options"
  | connection => "connection"

/-- An option. -/
structure Switch (α : Type) where
  /-- All its names, each with its hyphens. -/
  names : List String
  effect : Effect α
  help : String
  chapter : Chapter := .options
  required : Bool := false

/-- A word that selects what is done with all the arguments behind it. -/
structure Choice (α : Type) where
  word : String
  help : String
  /-- Reads the arguments behind the word, for a terminal of so many columns. -/
  read : Int → List String → α → Except Ending α

/-- An argument that is known by its place. -/
inductive Operand (α : Type) where
  | one (name help : String) (take : String → α → Except Complaint α)
  | atMostOne (name help : String) (take : String → α → Except Complaint α)
  /-- A word and all the arguments behind it. -/
  | command (name help : String) (choices : List (Choice α))

/-- What a program can be given. -/
structure Grammar (α : Type) where
  program : String
  /-- What the program shows as its version. -/
  version : String
  summary : String
  switches : List (Switch α)
  operands : List (Operand α) := []

namespace Effect

variable {α : Type}

/-- An effect that takes what `read` makes of a text. Nothing is a list without items, which no
reader judges. -/
def reading (label : String) (read : String → Except Complaint Value) (set : Value → α → α) :
    Effect α :=
  .value label fun
    | none, a => .ok (set (.list []) a)
    | some s, a => (fun v => set v a) <$> read s

/-- An effect that takes a text as it is. -/
def text (label : String) (set : Value → α → α) : Effect α :=
  .reading label (fun s => .ok (.text s)) set

/-- Whether the option takes a text. -/
def takesText : Effect α → Bool
  | value _ _ => true
  | _ => false

end Effect

/-- What refusals call an option. -/
def Switch.title {α : Type} (s : Switch α) : String := String.intercalate "/" s.names

/-- What refusals call an operand. -/
def Operand.title {α : Type} : Operand α → String
  | one name _ _ => name
  | atMostOne name _ _ => name
  | command name _ _ => name

/-- Whether an operand has to be given. -/
def Operand.required {α : Type} : Operand α → Bool
  | one _ _ _ => true
  | _ => false

namespace Grammar

variable {α : Type}

/-- The option of a name. -/
def switch? (g : Grammar α) (name : String) : Option (Switch α) :=
  g.switches.find? fun s => s.names.contains name

/-- What has to be given. -/
def requiredTitles (g : Grammar α) : List String :=
  (g.switches.filter Switch.required).map Switch.title ++
    (g.operands.filter Operand.required).map Operand.title

end Grammar

end PgVitals.Arguments
