import PgVitals.Arguments.Grammar
import PgVitals.Text.Digit
/-!
# Words of a command line

Each argument is an operand, or it mentions an option, alone or with a text attached to it. A long
name starts with two hyphens, and may be abbreviated as long as it is clear what it stands for. A
negative number is an operand, and so is everything behind the argument that consists of two
hyphens.

* `Mention` is an option as an argument names it, and `Word` what an argument is.
* `candidates` are the options that an argument which is no full name may mention. More than one is
  an ambiguity, which is a refusal.
* `words` says what all arguments are, before any of them is read.

What an argument is does not depend on the arguments in front of it, but for the two hyphens.
-/

namespace PgVitals.Arguments

open PgVitals.Text

variable {α : Type}

/-- An option as an argument names it. -/
structure Mention (α : Type) where
  switch : Switch α
  /-- Whether the name is a long one. -/
  long : Bool
  /-- What stands behind the name in the same argument, without the equals sign between them. -/
  attached : Option (List Char) := none

/-- An argument. -/
inductive Word (α : Type) where
  | operand (text : String)
  /-- The two hyphens that end the options. -/
  | divider
  | mention (text : String) (m : Mention α)
  /-- What looks like an option but is none. -/
  | unknown (text : String)

namespace Word

/-- The text of the two hyphens. -/
def dividerText : String := "--"

/-- The argument. -/
def text : Word α → String
  | operand text => text
  | divider => dividerText
  | mention text _ => text
  | unknown text => text

/-- Whether an argument mentions an option, or seems to. -/
def isOption : Word α → Bool
  | mention _ _ => true
  | unknown _ => true
  | _ => false

/-- Whether an argument is an operand. -/
def isOperand : Word α → Bool
  | operand _ => true
  | _ => false

/-- Whether an argument is the two hyphens. -/
def isDivider : Word α → Bool
  | divider => true
  | _ => false

end Word

/-- Whether the characters behind a hyphen make it a negative number. -/
def isNumber (cs : List Char) : Bool :=
  let cs := if cs.getLast? == some '\n' then cs.dropLast else cs
  let whole := cs.takeWhile isDigit
  match cs.drop whole.length with
  | [] => !whole.isEmpty
  | '.' :: fraction => !fraction.isEmpty && fraction.all isDigit
  | _ => false

/-- A text before its first equals sign, and what is behind the sign if there is one. -/
def cutAtEquals (text : List Char) : List Char × Option (List Char) :=
  (text.takeWhile (· != '='), (text.dropWhile (· != '=')).tail?)

/-- Whether a name is a long one. -/
def isLong (name : List Char) : Bool := ['-', '-'].isPrefixOf name

namespace Grammar

/-- The names that a long name may be short for, with their options. -/
def completions (g : Grammar α) (stem : List Char) : List (String × Switch α) :=
  g.switches.flatMap fun s =>
    (s.names.filter fun name => stem.isPrefixOf name.toList).map fun name => (name, s)

/-- The options that an argument which is no full name may mention. -/
def candidates (g : Grammar α) (text : List Char) : List (String × Mention α) :=
  match text with
  | '-' :: '-' :: _ =>
    let (stem, attached) := cutAtEquals text
    (g.completions stem).map fun (name, s) => (name, ⟨s, true, attached⟩)
  | _ =>
    let name := String.ofList (text.take 2)
    ((g.switch? name).map fun s => (name, (⟨s, false, some (text.drop 2)⟩ : Mention α))).toList

/-- What an argument mentions, if it starts with the full name of an option. -/
def mention? (g : Grammar α) (text : List Char) : Option (Mention α) :=
  match g.switch? (String.ofList text) with
  | some s => some ⟨s, isLong text, none⟩
  | none =>
    match cutAtEquals text with
    | (_, none) => none
    | (name, attached) =>
      (g.switch? (String.ofList name)).map fun s => ⟨s, isLong name, attached⟩

/-- What an argument is that is not the two hyphens. -/
def classify (g : Grammar α) (text : String) : Except Refusal (Word α) :=
  match text.toList with
  | '-' :: c :: rest =>
    let chars := '-' :: c :: rest
    match g.mention? chars with
    | some m => .ok (.mention text m)
    | none =>
      match g.candidates chars with
      | [(_, m)] => .ok (.mention text m)
      | [] =>
        .ok (if isNumber (c :: rest) || chars.contains ' ' then .operand text else .unknown text)
      | several => .error (.ambiguous text (several.map Prod.fst))
  | _ => .ok (.operand text)

/-- What the arguments are. -/
def words (g : Grammar α) : List String → Except Refusal (List (Word α))
  | [] => .ok []
  | text :: rest =>
    if text == Word.dividerText then .ok (.divider :: rest.map .operand)
    else do
      let word ← g.classify text
      let others ← g.words rest
      return word :: others

end Grammar

end PgVitals.Arguments
