import PgVitals.Yaml.Cursor
/-!
# Texts of scalars

A scalar is written plainly, between quotes, or as an indented block. Line breaks within a text are
folded: one break is a blank, and of several breaks the first is passed over.

* `quotedText` is a text between quotes, with its escapes where the quotes are double ones.
* `plainText` is a plain text, which ends at a colon, a comment, or, in a flow collection, at one of
  its marks.
* `blockText` is an indented block, literal or folded, with its two indicators.

Half a character that an escape has written alone is no character, and the text is refused. Texts
are read with the cursor in `Yaml/Cursor`, and every function says where the cursor is afterwards.
-/

namespace PgVitals.Yaml

/-- The characters for folded breaks: a blank for a single line feed, and otherwise the breaks but
for a line feed in front. -/
def folded (first : Char) (more : List Char) : List Char :=
  if first != '\n' then first :: more
  else if more.isEmpty then [' ']
  else more

/-! ## Quoted texts -/

/-- The character that an escaped letter stands for. -/
def escaped? : Char → Option Char
  | '0' => some (Char.ofNat 0)
  | 'a' => some '\x07'
  | 'b' => some '\x08'
  | 't' => some '\t'
  | '\t' => some '\t'
  | 'n' => some '\n'
  | 'v' => some '\x0b'
  | 'f' => some '\x0c'
  | 'r' => some '\r'
  | 'e' => some '\x1b'
  | ' ' => some ' '
  | '"' => some '"'
  | '\\' => some '\\'
  | '/' => some '/'
  | 'N' => some (Char.ofNat 0x85)
  | '_' => some (Char.ofNat 0xa0)
  | 'L' => some (Char.ofNat 0x2028)
  | 'P' => some (Char.ofNat 0x2029)
  | _ => none

/-- The number of hexadecimal digits behind an escaped letter. -/
def escapeDigits? : Char → Option Nat
  | 'x' => some 2
  | 'u' => some 4
  | 'U' => some 8
  | _ => none

/-- The value of a hexadecimal digit. -/
def hexDigit? (c : Char) : Option Nat :=
  let n := c.toNat
  if 48 ≤ n ∧ n ≤ 57 then some (n - 48)
  else if 97 ≤ n ∧ n ≤ 102 then some (n - 87)
  else if 65 ≤ n ∧ n ≤ 70 then some (n - 55)
  else none

/-- The value of hexadecimal digits. -/
def hexValue? (cs : List Char) : Option Nat :=
  cs.foldl (fun n c => do return (← n) * 16 + (← hexDigit? c)) (some 0)

/-- A code in hexadecimal digits at the cursor. It is the code of a character or of half a
character. -/
def codeAt (count : Nat) (c : Cursor) : Except Flaw Nat :=
  let ds := c.rest.take count
  match hexValue? ds with
  | some code =>
    if ds.length < count then .error .malformed
    else if 0x80000000 ≤ code then .error (.value .characterRange)
    else if 0x10ffff < code then .error (.value .noCharacter)
    else .ok code
  | none => .error .malformed

/-- The character of a code. Half a character alone is none. -/
def charOf (code : Nat) : Char :=
  if code.isValidChar then Char.ofNat code else Char.ofNat 0xfffd

/-- The second half of a character, where an escape for one comes next. -/
def lowHalf? (c : Cursor) : Option (Nat × Cursor) :=
  match c.rest with
  | '\\' :: ch :: _ =>
    match escapeDigits? ch with
    | some count =>
      match codeAt count (c.advance 2) with
      | .ok code =>
        if 0xdc00 ≤ code ∧ code ≤ 0xdfff then some (code - 0xdc00, c.advance (2 + count)) else none
      | .error _ => none
    | none => none
  | _ => none

/-- The character with a code in hexadecimal digits at the cursor. Two halves that follow each other
make one character. -/
def codedChar (count : Nat) (c : Cursor) : Except Flaw (Char × Cursor) := do
  let code ← codeAt count c
  let c := c.advance count
  if 0xd800 ≤ code ∧ code < 0xdc00 then
    match lowHalf? c with
    | some (low, c) => return (charOf (0x10000 + (code - 0xd800) * 0x400 + low), c)
    | none => return (charOf code, c)
  else return (charOf code, c)

/-- Line breaks and the blanks in front of lines, between the lines of a quoted text. -/
def quotedBreaks : Nat → Cursor → Except Flaw (List Char × Cursor)
  | 0, _ => .error .malformed
  | fuel + 1, c =>
    if c.atDocumentMarker then .error .malformed
    else
      let c := c.skipWhile fun ch => ch == ' ' || ch == '\t'
      match c.lineBreak? with
      | none => .ok ([], c)
      | some (ch, c) => do
        let (more, c) ← quotedBreaks fuel c
        return (ch :: more, c)

/-- Blanks in a quoted text: a line break among them folds. -/
def quotedBlanks (fuel : Nat) (c : Cursor) : Except Flaw (List Char × Cursor) :=
  let (blanks, c) := c.takeWhile fun ch => ch == ' ' || ch == '\t'
  match c.lineBreak? with
  | some (first, c) => do
    let (more, c) ← quotedBreaks fuel c
    return (folded first more, c)
  | none => if c.rest.isEmpty then .error .malformed else .ok (blanks, c)

/-- An escape in a text between double quotes, behind its backslash. -/
def quotedEscape (fuel : Nat) (c : Cursor) : Except Flaw (List Char × Cursor) :=
  match c.peek with
  | none => .error .malformed
  | some ch =>
    match escaped? ch, escapeDigits? ch with
    | some meaning, _ => .ok ([meaning], c.next)
    | none, some count => do
      let (meaning, c) ← codedChar count c.next
      return ([meaning], c)
    | none, none => if isBreak ch then quotedBreaks fuel c.skipBreak else .error .malformed

/-- The rest of a quoted text, up to its closing quote. -/
def quotedRest (double : Bool) : Nat → Cursor → Except Flaw (List Char × Cursor)
  | 0, _ => .error .malformed
  | fuel + 1, c =>
    match c.peek with
    | none => .error .malformed
    | some ch =>
      if !double && ch == '\'' && c.peekAt 1 == some '\'' then do
        let (more, c) ← quotedRest double fuel (c.advance 2)
        return ('\'' :: more, c)
      else if ch == (if double then '"' else '\'') then .ok ([], c.next)
      else if double && ch == '\\' then do
        let (meaning, c) ← quotedEscape fuel c.next
        let (more, c) ← quotedRest double fuel c
        return (meaning ++ more, c)
      else if endsToken (some ch) then do
        let (blanks, c) ← quotedBlanks fuel c
        let (more, c) ← quotedRest double fuel c
        return (blanks ++ more, c)
      else do
        let (more, c) ← quotedRest double fuel c.next
        return (ch :: more, c)

/-- A quoted text that starts at the cursor. -/
def quotedText (double : Bool) (c : Cursor) : Except Flaw (String × Cursor) := do
  let (cs, c) ← quotedRest double (c.rest.length + 1) c.next
  return (String.ofList cs, c)

/-! ## Plain texts -/

/-- Whether a plain text ends in front of these characters. In flow collections more characters end
it. -/
def endsPlain (flow : Bool) : List Char → Bool
  | [] => true
  | c :: rest =>
    endsToken (some c) ||
    (c == ':' &&
      (endsToken rest.head? || (flow && rest.head?.any (",[]\x7b\x7d".toList.contains ·)))) ||
    (flow && ",?[]\x7b\x7d".toList.contains c)

/-- The characters of a plain text up to where it ends. -/
def plainRun (flow : Bool) : List Char → List Char
  | [] => []
  | c :: rest => if endsPlain flow (c :: rest) then [] else c :: plainRun flow rest

/-- What stands between the lines of a plain text. -/
structure PlainGap where
  /-- The characters it folds to; none where the text cannot go on. -/
  chars : List Char
  cursor : Cursor
  /-- Whether a line ended. -/
  broken : Bool

/-- Further breaks between the lines of a plain text; none when a document starts or ends there. -/
def plainBreaks : Nat → Cursor → Option (List Char) × Cursor
  | 0, c => (some [], c)
  | fuel + 1, c =>
    let c := c.skipSpaces
    match c.lineBreak? with
    | none => (some [], c)
    | some (ch, c) =>
      if c.atDocumentMarker then (none, c)
      else
        let (more, c) := plainBreaks fuel c
        (more.map (ch :: ·), c)

/-- Blanks and breaks behind a part of a plain text. -/
def plainGap (c : Cursor) : PlainGap :=
  let (blanks, c) := c.takeWhile (· == ' ')
  match c.lineBreak? with
  | none => ⟨blanks, c, false⟩
  | some (first, c) =>
    if c.atDocumentMarker then ⟨[], c, true⟩
    else
      let (more, c) := plainBreaks (c.rest.length + 1) c
      ⟨(more.map (folded first)).getD [], c, true⟩

/-- A plain text: its characters, the cursor behind it and whether a line ended after it. -/
def plainRest (flow : Bool) (indent : Int) :
    Nat → List Char → Bool → Cursor → List Char × Cursor × Bool
  | 0, _, broken, c => ([], c, broken)
  | fuel + 1, gap, broken, c =>
    let run := if c.peek = some '#' then [] else plainRun flow c.rest
    if run.isEmpty then ([], c, broken)
    else
      let next := plainGap (c.advance run.length)
      if next.chars.isEmpty || next.cursor.peek == some '#' ||
          (!flow && decide ((next.cursor.column : Int) < indent)) then
        (gap ++ run, next.cursor, next.broken)
      else
        let (more, c, broken) := plainRest flow indent fuel next.chars next.broken next.cursor
        (gap ++ run ++ more, c, broken)

/-- A plain text that starts at the cursor; its further lines are indented by `indent` at least. -/
def plainText (flow : Bool) (indent : Int) (c : Cursor) : String × Cursor × Bool :=
  let (cs, c, broken) := plainRest flow indent (c.rest.length + 1) [] false c
  (String.ofList cs, c, broken)

/-! ## Blocks -/

/-- What happens to the breaks at the end of a block. -/
inductive Chomping where
  | strip | clip | keep
deriving DecidableEq

/-- The indicator of chomping, where there is one. -/
def chomping? (c : Cursor) : Option (Chomping × Cursor) :=
  match c.peek with
  | some '+' => some (.keep, c.next)
  | some '-' => some (.strip, c.next)
  | _ => none

/-- The indicator of indentation, where there is one. It is no zero. -/
def indentation? (c : Cursor) : Except Flaw (Option Nat × Cursor) :=
  match c.peek with
  | some ch =>
    if !ch.isDigit then .ok (none, c)
    else if ch == '0' then .error .malformed
    else .ok (some (ch.toNat - 48), c.next)
  | none => .ok (none, c)

/-- The two indicators behind the start of a block, in any order. -/
def blockIndicators (c : Cursor) : Except Flaw (Chomping × Option Nat × Cursor) := do
  let (chomping, increment, c) ←
    match chomping? c with
    | some (chomping, c) => do
      let (increment, c) ← indentation? c
      pure (chomping, increment, c)
    | none => do
      let (increment, c) ← indentation? c
      match increment, chomping? c with
      | some n, some (chomping, c) => pure (chomping, some n, c)
      | increment, _ => pure (Chomping.clip, increment, c)
  if endsPart c.peek then return (chomping, increment, c) else throw .malformed

/-- The breaks in front of a block, the widest indentation among the lines there, and the cursor at
its first text. -/
def blockStart : Nat → Nat → Cursor → List Char × Nat × Cursor
  | 0, widest, c => ([], widest, c)
  | fuel + 1, widest, c =>
    match c.lineBreak? with
    | some (ch, c) =>
      let (more, widest, c) := blockStart fuel widest c
      (ch :: more, widest, c)
    | none =>
      if c.peek = some ' ' then blockStart fuel (max widest (c.column + 1)) c.next
      else ([], widest, c)

/-- The cursor behind the indentation of a line. -/
def indented (indent : Nat) (c : Cursor) : Cursor :=
  c.advance (min (indent - c.column) (c.rest.takeWhile (· == ' ')).length)

/-- Breaks and indentation between the lines of a block. -/
def blockBreaks (indent : Nat) : Nat → Cursor → List Char × Cursor
  | 0, c => ([], c)
  | fuel + 1, c =>
    let c := indented indent c
    match c.lineBreak? with
    | none => ([], c)
    | some (ch, c) =>
      let (more, c) := blockBreaks indent fuel c
      (ch :: more, c)

/-- Whether a line goes on with a space or a tab. -/
def startsBlank (c : Cursor) : Bool := c.peek == some ' ' || c.peek == some '\t'

/-- The lines of a block: its characters, the last line break and the breaks after it. -/
def blockLines (fold : Bool) (indent : Nat) :
    Nat → List Char → List Char → Cursor → List Char × List Char × List Char × Cursor
  | 0, lastBreak, breaks, c => ([], lastBreak, breaks, c)
  | fuel + 1, lastBreak, breaks, c =>
    if c.column = indent && !c.rest.isEmpty then
      let leading := startsBlank c
      let (line, c) := c.takeWhile fun ch => !isBreak ch
      let (ending, c) := match c.lineBreak? with
        | some (ch, c) => ([ch], c)
        | none => ([], c)
      let (following, c) := blockBreaks indent fuel c
      let joint :=
        if c.column = indent && !c.rest.isEmpty then
          if fold && ending == ['\n'] && !leading && !startsBlank c then
            if following.isEmpty then [' '] else []
          else ending
        else []
      let (more, lastBreak, after, c) := blockLines fold indent fuel ending following c
      (breaks ++ line ++ joint ++ more, lastBreak, after, c)
    else ([], lastBreak, breaks, c)

/-- A block that starts at the cursor, within an indentation. -/
def blockText (fold : Bool) (indent : Int) (c : Cursor) : Except Flaw (String × Cursor) := do
  let (chomping, increment, c) ← blockIndicators c.next
  let c ← c.endLine
  let least := max (indent + 1) 1
  let fuel := c.rest.length + 1
  let (breaks, depth, c) :=
    match increment with
    | some n =>
      let depth := (least + n - 1).toNat
      let (breaks, c) := blockBreaks depth fuel c
      (breaks, depth, c)
    | none =>
      let (breaks, widest, c) := blockStart fuel 0 c
      (breaks, max least.toNat widest, c)
  let (cs, lastBreak, after, c) := blockLines fold depth fuel [] breaks c
  let ending :=
    match chomping with
    | .strip => []
    | .clip => lastBreak
    | .keep => lastBreak ++ after
  return (String.ofList (cs ++ ending), c)

end PgVitals.Yaml
