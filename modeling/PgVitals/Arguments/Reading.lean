import PgVitals.Arguments.Usage
import PgVitals.Arguments.Word
/-!
# Reading a command line

Arguments are read from the left. An option takes the text attached to it or the operand behind it;
the other operands go to the places that are left, in order, and whatever nothing takes is left
over. The first argument that cannot be used, or that asks for the help or the version, ends the
reading.

* `Grammar.cluster` are the options that one argument mentions: behind one hyphen each character may
  be one.
* `Grammar.readMention` reads an argument with options and what they take, and `fill` gives operands
  to their places, as many as can take some at once.
* `Grammar.readWords` reads all arguments; `readAll` refuses those that nothing takes.

That an option lacks its text is noticed before any option of its argument has an effect, and what
has to be given is looked for at the end. The order in which faults are found is part of what is
modelled, since the first one decides what the user is told.
-/

namespace PgVitals.Arguments

variable {α : Type}

/-- Why reading stops before the end. -/
inductive Halt where
  | help
  | version
  | refused (refusal : Refusal)
  /-- What a command made of the arguments behind it. -/
  | ended (ending : Ending)

/-- What has been read. -/
structure Progress (α : Type) where
  value : α
  /-- The titles of what was given. -/
  given : List String := []
  /-- Arguments that nothing takes. -/
  leftover : List String := []

/-- An argument that is left over. -/
def Progress.leave (p : Progress α) (texts : List String) : Progress α :=
  { p with leftover := p.leftover ++ texts }

/-- Takes over a value, or complains about an argument. -/
def orRefuse {β : Type} (title : String) : Except Complaint β → Except Halt β
  | .ok b => .ok b
  | .error complaint => .error (.refused (.argument title complaint))

/-! ## Options -/

/-- The options in one argument. -/
structure Cluster (α : Type) where
  /-- The options before the last one, none of which takes a text. -/
  marks : List (Switch α) := []
  last : Switch α
  /-- The text attached to the last option. -/
  text : Option String := none

/-- Refuses a text that is attached to an option without one. -/
def refuseText {β : Type} (s : Switch α) (text : List Char) : Except Refusal β :=
  .error (.argument s.title (.unwanted (String.ofList text)))

/-- The options behind one hyphen, of which `s` is the first: each character behind an option
without a text names another one, and what is behind an option with a text is the text. -/
def Grammar.unfold (g : Grammar α) (s : Switch α) : List Char → Except Refusal (Cluster α)
  | [] => .ok { last := s }
  | c :: rest =>
    if s.effect.takesText then .ok { last := s, text := some (String.ofList (c :: rest)) }
    else
      match g.switch? (String.ofList ['-', c]) with
      | none => refuseText s (c :: rest)
      | some next => do
        let cluster ← g.unfold next rest
        return { cluster with marks := s :: cluster.marks }

/-- The options that an argument mentions. Behind a long name there is no other one. -/
def Grammar.cluster (g : Grammar α) (m : Mention α) : Except Refusal (Cluster α) :=
  match m.attached with
  | none => .ok { last := m.switch }
  | some text =>
    if m.switch.effect.takesText then .ok { last := m.switch, text := some (String.ofList text) }
    else if m.long || text.isEmpty then refuseText m.switch text
    else g.unfold m.switch text

/-- The text that an option takes: two hyphens are none. -/
def taken (text : String) : Option String := if text == Word.dividerText then none else some text

/-- Does what an option does. -/
def Switch.apply (s : Switch α) (text : String) (p : Progress α) : Except Halt (Progress α) :=
  let p := { p with given := s.title :: p.given }
  match s.effect with
  | .help => .error .help
  | .version => .error .version
  | .mark set => .ok { p with value := set p.value }
  | .value _ take => do
    let value ← orRefuse s.title (take (taken text) p.value)
    return { p with value := value }

/-- Does what the options without a text do. -/
def applyAll : List (Switch α) → Progress α → Except Halt (Progress α)
  | [], p => .ok p
  | s :: rest, p => do applyAll rest (← s.apply "" p)

/-- Reads the options in an argument; `next` are the arguments behind it. Tells, too, how many of
those were taken. That a text is missing is noticed before any of the options has an effect. -/
def Grammar.readMention (g : Grammar α) (m : Mention α) (next : List (Word α)) (p : Progress α) :
    Except Halt (Progress α × Nat) :=
  match g.cluster m with
  | .error refusal => .error (.refused refusal)
  | .ok ⟨marks, s, some text⟩ => do return (← s.apply text (← applyAll marks p), 0)
  | .ok ⟨marks, s, none⟩ =>
    if s.effect.takesText then
      match next with
      | .operand text :: _ => do return (← s.apply text (← applyAll marks p), 1)
      | _ => .error (.refused (.argument s.title .missing))
    else do return (← applyAll (marks ++ [s]) p, 0)

/-! ## Operands -/

/-- The number of arguments that an operand takes, if what it needs is there. The two hyphens go
with it, before and behind. -/
def Operand.span (o : Operand α) (words : List (Word α)) : Option Nat :=
  let front := words.takeWhile Word.isDivider
  let rest := words.drop front.length
  let size (taken : Nat) : Nat :=
    front.length + taken + ((rest.drop taken).takeWhile Word.isDivider).length
  match o, rest.head?.any Word.isOperand with
  | .one _ _ _, true => some (size 1)
  | .one _ _ _, false => none
  | .atMostOne _ _ _, true => some (size 1)
  | .atMostOne _ _ _, false => some (size 0)
  | .command _ _ _, true => some words.length
  | .command _ _ _, false => none

/-- Gives an operand its arguments; the first two hyphens among them do not count, except for a
command. -/
def Operand.apply (columns : Int) (o : Operand α) (texts : List String) (p : Progress α) :
    Except Halt (Progress α) :=
  let p := { p with given := o.title :: p.given }
  let single (name : String) (take : String → α → Except Complaint α) :
      Except Halt (Progress α) :=
    match texts.erase Word.dividerText with
    | [] => .ok p
    | text :: _ => do
      let value ← orRefuse name (take text p.value)
      return { p with value := value }
  match o with
  | .one name _ take => single name take
  | .atMostOne name _ take => single name take
  | .command name _ choices =>
    match texts with
    | [] => .ok p
    | text :: rest =>
      match choices.find? fun c => c.word == text with
      | none => .error (.refused (.argument name (.unknownCommand text (choices.map Choice.word))))
      | some choice =>
        match choice.read columns rest p.value with
        | .ok value => .ok { p with value := value }
        | .error ending => .error (.ended ending)

/-- Gives the arguments in front to as many operands as can take some; what is left of both. -/
def fill (columns : Int) : List (Operand α) → List (Word α) → Progress α →
    Except Halt (List (Operand α) × List (Word α) × Progress α)
  | [], words, p => .ok ([], words, p)
  | o :: others, words, p =>
    match o.span words with
    | none => .ok (o :: others, words, p)
    | some n => do
      let p ← o.apply columns ((words.take n).map Word.text) p
      fill columns others (words.drop n) p

/-! ## Whole command lines -/

/-- Reads arguments. Operands are given out in front of an option and at the end. -/
def Grammar.readWords (g : Grammar α) (columns : Int) (operands : List (Operand α))
    (words : List (Word α)) (p : Progress α) : Except Halt (Progress α) :=
  if words.any Word.isOption then
    match words with
    | [] => .ok p
    | .unknown text :: rest => g.readWords columns operands rest (p.leave [text])
    | .mention _ m :: rest => do
      let (p, taken) ← g.readMention m rest p
      g.readWords columns operands (rest.drop taken) p
    | word :: rest => do
      let (operands, remaining, q) ← fill columns operands (word :: rest) p
      if _ : remaining.length < (word :: rest).length then
        g.readWords columns operands remaining q
      else g.readWords columns operands rest (q.leave [word.text])
  else do
    let (_, remaining, p) ← fill columns operands words p
    return p.leave (remaining.map Word.text)
termination_by words.length
decreasing_by
  · exact Nat.lt_succ_self _
  · exact Nat.lt_succ_of_le (by rw [List.length_drop]; exact Nat.sub_le _ _)
  · assumption
  · exact Nat.lt_succ_self _

namespace Grammar

/-- Reads the texts of all arguments. -/
def readTexts (g : Grammar α) (columns : Int) (texts : List String) (start : α) :
    Except Halt (Progress α) := do
  let words ← (g.words texts).mapError .refused
  let p ← g.readWords columns g.operands words ⟨start, [], []⟩
  match g.requiredTitles.filter fun title => !p.given.contains title with
  | [] => return p
  | missing => throw (.refused (.absent missing))

/-- How a command line ends when its reading stops. -/
def ending (g : Grammar α) (columns : Int) : Halt → Ending
  | .help => .shown (g.helpText columns)
  | .version => .shown (g.versionText columns)
  | .refused refusal => .refused (g.usage columns) refusal
  | .ended ending => ending

/-- What a command line says, and the arguments that nothing takes. -/
def readSome (g : Grammar α) (columns : Int) (texts : List String) (start : α) :
    Except Ending (α × List String) :=
  match g.readTexts columns texts start with
  | .ok p => .ok (p.value, p.leftover)
  | .error halt => .error (g.ending columns halt)

/-- Refuses arguments that nothing takes. -/
def refuseLeftover (g : Grammar α) (columns : Int) {β : Type} (value : β) (leftover : List String) :
    Except Ending β :=
  if leftover.isEmpty then .ok value
  else .error (.refused (g.usage columns) (.unrecognized leftover))

/-- What a command line says, if something takes every argument. -/
def readAll (g : Grammar α) (columns : Int) (texts : List String) (start : α) :
    Except Ending α := do
  let (value, leftover) ← g.readSome columns texts start
  g.refuseLeftover columns value leftover

end Grammar

end PgVitals.Arguments
