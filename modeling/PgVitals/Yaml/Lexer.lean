import PgVitals.Value
import PgVitals.Yaml.Scalar
import PgVitals.Yaml.Token
/-!
# From characters to tokens

A key of a mapping is known as one only when the colon behind it is reached, so the lexer remembers
where a key may have started, for each flow collection it is in. A key stands on one line and is not
longer than 1024 characters. At the indentation of a block mapping a key is certain, and a missing
colon is a flaw.

* `Lexer` is the state: the cursor, the tokens so far, the indentations, and the places where a key
  may have started.
* `Lexer.readToken` reads the token at the cursor, by its first characters; there is one function
  for each kind of token.
* `Lexer.dropStaleKeys`, `Lexer.markKey` and `Lexer.unwind` keep the keys and the indentations up to
  date.
* `Lexer.readAll` are the tokens of a text. Of a flawed text it has those that are known without
  what is flawed, `Lexer.settled`, since a flaw in the nodes made of these comes first.

This is version 1.1 of the language, with its truth values, its sexagesimal numbers and its merges.
-/

namespace PgVitals.Yaml

/-- A place where a key may have started. -/
structure PossibleKey where
  /-- The number of tokens before it. -/
  position : Nat
  /-- Whether a colon has to follow. -/
  certain : Bool
  index : Nat
  line : Nat
  column : Nat

/-- The state of a lexer. -/
structure Lexer where
  cursor : Cursor
  tokens : Array Token := #[]
  /-- The column of the block the lexer is in. -/
  indent : Int := -1
  /-- The columns of the blocks around it, innermost first. -/
  outerIndents : List Int := []
  /-- Whether a key may start here. -/
  keyAllowed : Bool := true
  possibleKey : Option PossibleKey := none
  /-- The possible keys outside each flow collection around, innermost first. -/
  outerKeys : List (Option PossibleKey) := []
  finished : Bool := false

namespace Lexer

/-- Whether the lexer is in a flow collection. -/
def inFlow (l : Lexer) : Bool := !l.outerKeys.isEmpty

/-- Adds a token. -/
def push (l : Lexer) (t : Token) : Lexer := { l with tokens := l.tokens.push t }

/-- Adds a token in front of others. -/
def insert (l : Lexer) (position : Nat) (t : Token) : Lexer :=
  { l with tokens := l.tokens.insertIdxIfInBounds position t }

/-! ## Keys -/

/-- A possible key that is still possible. A certain one has to be. -/
def refresh (c : Cursor) : Option PossibleKey → Except Flaw (Option PossibleKey)
  | none => .ok none
  | some k =>
    if k.line ≠ c.line ∨ 1024 < c.index - k.index then
      if k.certain then .error .malformed else .ok none
    else .ok (some k)

/-- Forgets the keys that are no longer possible. -/
def dropStaleKeys (l : Lexer) : Except Flaw Lexer := do
  return { l with
    possibleKey := ← refresh l.cursor l.possibleKey
    outerKeys := ← l.outerKeys.mapM (refresh l.cursor) }

/-- Forgets the possible key, which must not be a certain one. -/
def dropKey (l : Lexer) : Except Flaw Lexer :=
  match l.possibleKey with
  | some k => if k.certain then .error .malformed else .ok { l with possibleKey := none }
  | none => .ok l

/-- Remembers that a key may start here. -/
def markKey (l : Lexer) : Except Flaw Lexer := do
  if !l.keyAllowed then return l
  else
    let l ← l.dropKey
    let c := l.cursor
    let certain := !l.inFlow && l.indent == c.column
    return { l with possibleKey := some ⟨l.tokens.size, certain, c.index, c.line, c.column⟩ }

/-! ## Indentation -/

/-- Ends the blocks that are indented further than a column. -/
def unwind (column : Int) (l : Lexer) : Lexer :=
  if l.inFlow then l
  else
    let ended := (l.indent :: l.outerIndents).takeWhile fun i => column < i
    match (l.indent :: l.outerIndents).drop ended.length with
    | i :: outer =>
      { l with
        indent := i, outerIndents := outer
        tokens := l.tokens ++ (ended.map fun _ => Token.blockEnd).toArray }
    | [] => l

/-- Starts a block at a column that is further in than the block around it: its token is put at a
position. -/
def openBlock (l : Lexer) (column position : Nat) (start : Token) : Lexer :=
  if l.indent < column then
    { l.insert position start with indent := column, outerIndents := l.indent :: l.outerIndents }
  else l

/-! ## Tokens of one kind -/

/-- The end of the text. -/
def finish (l : Lexer) : Except Flaw Lexer := do
  let l ← (l.unwind (-1)).dropKey
  return { l.push .finish with finished := true }

/-- The line between two documents. -/
def documentMarker (t : Token) (l : Lexer) : Except Flaw Lexer := do
  let l ← (l.unwind (-1)).dropKey
  return { l.push t with cursor := l.cursor.advance 3, keyAllowed := false }

/-- The start of a flow collection. -/
def openFlow (t : Token) (l : Lexer) : Except Flaw Lexer := do
  let l ← l.markKey
  return { l.push t with
    cursor := l.cursor.next, keyAllowed := true
    possibleKey := none, outerKeys := l.possibleKey :: l.outerKeys }

/-- The end of a flow collection. -/
def closeFlow (t : Token) (l : Lexer) : Except Flaw Lexer := do
  let l ← l.dropKey
  match l.outerKeys with
  | [] => throw .malformed
  | k :: outer =>
    return { l.push t with
      cursor := l.cursor.next, keyAllowed := false, possibleKey := k, outerKeys := outer }

/-- A comma. -/
def comma (l : Lexer) : Except Flaw Lexer := do
  let l ← l.dropKey
  return { l.push .comma with cursor := l.cursor.next, keyAllowed := true }

/-- Opens a block for an indicator at the cursor, where one may stand. -/
def blockFor (l : Lexer) (start : Token) : Except Flaw Lexer :=
  if l.inFlow then .ok l
  else if !l.keyAllowed then .error .malformed
  else .ok (l.openBlock l.cursor.column l.tokens.size start)

/-- The hyphen in front of an item. -/
def item (l : Lexer) : Except Flaw Lexer := do
  let l ← l.blockFor .blockSequence
  let l ← { l with keyAllowed := true }.dropKey
  return { l.push .item with cursor := l.cursor.next }

/-- The question mark in front of a key. -/
def explicitKey (l : Lexer) : Except Flaw Lexer := do
  let l ← l.blockFor .blockMapping
  let l ← { l with keyAllowed := !l.inFlow }.dropKey
  return { l.push .key with cursor := l.cursor.next }

/-- The colon behind a key. The possible key, if there is one, is a key now. -/
def colon (l : Lexer) : Except Flaw Lexer := do
  match l.possibleKey with
  | some k =>
    let l := { l.insert k.position .key with possibleKey := none, keyAllowed := false }
    let l := if l.inFlow then l else l.openBlock k.column k.position .blockMapping
    return { l.push .value with cursor := l.cursor.next }
  | none =>
    let l ← l.blockFor .blockMapping
    return { l.push .value with cursor := l.cursor.next, keyAllowed := !l.inFlow }

/-- A token that may be a key and stands alone. -/
def standalone (l : Lexer) (read : Cursor → Except Flaw (Token × Cursor)) : Except Flaw Lexer := do
  let l ← l.markKey
  let (t, c) ← read l.cursor
  return { l.push t with cursor := c, keyAllowed := false }

/-- A text as an indented block. -/
def block (fold : Bool) (l : Lexer) : Except Flaw Lexer := do
  let l ← { l with keyAllowed := true }.dropKey
  let (s, c) ← blockText fold l.indent l.cursor
  return { l.push (.scalar s false) with cursor := c }

/-- A plain text. -/
def plain (l : Lexer) : Except Flaw Lexer := do
  let l ← l.markKey
  let (s, c, broken) := plainText l.inFlow (l.indent + 1) l.cursor
  return { l.push (.scalar s true) with cursor := c, keyAllowed := broken }

end Lexer

/-! ## Names and tags -/

/-- The name behind an ampersand or an asterisk. -/
def nameToken (make : String → Token) (c : Cursor) : Except Flaw (Token × Cursor) :=
  let (name, c) := c.next.takeWhile isWord
  let ends := match c.peek with
    | none => true
    | some ch => endsToken (some ch) || "?:,]\x7d%@`".toList.contains ch
  if name.isEmpty || !ends then .error .malformed else .ok (make (String.ofList name), c)

/-- A character of a tag that needs no escape. -/
def isTagChar (c : Char) : Bool := c.isAlphanum || "-;/?:@&=+$,_.!~*'()[]".toList.contains c

/-- Escaped bytes: pairs of hexadecimal digits behind percent signs. -/
def escapedBytes : Nat → Cursor → Except Flaw (List UInt8 × Cursor)
  | 0, _ => .error .malformed
  | fuel + 1, c =>
    if c.peek = some '%' then
      let ds := c.next.rest.take 2
      match hexValue? ds with
      | some n =>
        if ds.length < 2 then .error .malformed
        else do
          let (more, c) ← escapedBytes fuel (c.advance 3)
          return (n.toUInt8 :: more, c)
      | none => .error .malformed
    else .ok ([], c)

/-- The characters of a tag. -/
def tagChars : Nat → Cursor → Except Flaw (List Char × Cursor)
  | 0, _ => .error .malformed
  | fuel + 1, c =>
    let (run, c) := c.takeWhile isTagChar
    if c.peek = some '%' then do
      let (bytes, c) ← escapedBytes fuel c
      match String.fromUTF8? (ByteArray.mk bytes.toArray) with
      | none => throw .malformed
      | some s =>
        let (more, c) ← tagChars fuel c
        return (run ++ s.toList ++ more, c)
    else .ok (run, c)

/-- The text of a tag, which is not empty. -/
def tagText (c : Cursor) : Except Flaw (String × Cursor) := do
  let (cs, c) ← tagChars (c.rest.length + 1) c
  if cs.isEmpty then throw .malformed else return (String.ofList cs, c)

/-- The handle of a tag: an exclamation mark, or a word between two. -/
def tagHandle (c : Cursor) : Except Flaw (String × Cursor) :=
  if c.peek ≠ some '!' then .error .malformed
  else
    let (word, after) := c.next.takeWhile isWord
    if c.peekAt 1 = some ' ' then .ok ("!", c.next)
    else if after.peek = some '!' then
      .ok (String.ofList ('!' :: word ++ ['!']), after.next)
    else .error .malformed

/-- Whether a second exclamation mark follows before the next space. -/
def hasHandle (c : Cursor) : Bool :=
  (c.next.rest.takeWhile fun ch => !endsPart (some ch)).contains '!'

/-- A tag. -/
def tagToken (c : Cursor) : Except Flaw (Token × Cursor) := do
  let (t, c) ←
    if c.peekAt 1 = some '<' then do
      let (suffix, c) ← tagText (c.advance 2)
      if c.peek = some '>' then pure (Token.tag none suffix, c.next) else throw .malformed
    else if endsToken (c.peekAt 1) then pure (Token.tag none "!", c.next)
    else do
      let (handle, c) ← if hasHandle c then tagHandle c else pure ("!", c.next)
      let (suffix, c) ← tagText c
      pure (Token.tag (some handle) suffix, c)
  if endsPart c.peek then return (t, c) else throw .malformed

/-- A quoted text as a token. -/
def quotedToken (double : Bool) (c : Cursor) : Except Flaw (Token × Cursor) := do
  let (s, c) ← quotedText double c
  return (.scalar s false, c)

/-! ## Directives -/

/-- The digits of a version. -/
def versionNumber (c : Cursor) : Except Flaw (Nat × Cursor) :=
  let (ds, c) := c.takeWhile Char.isDigit
  if ds.isEmpty then .error .malformed
  else
    match Value.intOfText "" (String.ofList ds) with
    | .ok n => .ok (n.toNat, c)
    | .error fault => .error (.value fault)

/-- A version: two numbers and a point between them. -/
def versionDirective (c : Cursor) : Except Flaw (Directive × Cursor) := do
  let (major, c) ← versionNumber c.skipSpaces
  if c.peek ≠ some '.' then throw .malformed
  let (_, c) ← versionNumber c.next
  if endsPart c.peek then return (.version major, c) else throw .malformed

/-- A handle for tags and what it stands for. -/
def handleDirective (c : Cursor) : Except Flaw (Directive × Cursor) := do
  let (handle, c) ← tagHandle c.skipSpaces
  if c.peek ≠ some ' ' then throw .malformed
  let (expansion, c) ← tagText c.skipSpaces
  if endsPart c.peek then return (.handle handle expansion, c) else throw .malformed

/-- A line that starts with a percent sign. -/
def directiveToken (c : Cursor) : Except Flaw (Token × Cursor) := do
  let (name, c) := c.next.takeWhile isWord
  if name.isEmpty || !endsPart c.peek then throw .malformed
  let (d, c) ←
    match String.ofList name with
    | "YAML" => versionDirective c
    | "TAG" => handleDirective c
    | _ => pure (Directive.other, c.skipWhile fun ch => !isBreak ch)
  return (.directive d, ← c.endLine)

namespace Lexer

/-- A directive. -/
def directive (l : Lexer) : Except Flaw Lexer := do
  let l ← (l.unwind (-1)).dropKey
  let (t, c) ← directiveToken l.cursor
  return { l.push t with cursor := c, keyAllowed := false }

/-! ## The next token -/

/-- The lexer behind spaces, comments and line breaks. -/
def skipToToken : Nat → Lexer → Lexer
  | 0, l => l
  | fuel + 1, l =>
    let c := l.cursor.skipSpaces.skipComment
    match c.lineBreak? with
    | some (_, c) =>
      skipToToken fuel { l with cursor := c, keyAllowed := l.keyAllowed || !l.inFlow }
    | none => { l with cursor := c }

/-- Whether a plain text may start with a character, before another. -/
def startsPlain (flow : Bool) (ch : Char) (next : Option Char) : Bool :=
  if !endsToken (some ch) && !"-?:,[]\x7b\x7d#&*!|>'\"%@`".toList.contains ch then true
  else !endsToken next && (ch == '-' || (!flow && (ch == '?' || ch == ':')))

/-- Reads the token at the cursor. -/
def readToken (l : Lexer) : Except Flaw Lexer :=
  let c := l.cursor
  match c.peek with
  | none => l.finish
  | some ch =>
    let ended := endsToken (c.peekAt 1)
    if ch = '%' && c.column = 0 then l.directive
    else if c.column = 0 && c.atMarker '-' then l.documentMarker .documentStart
    else if c.column = 0 && c.atMarker '.' then l.documentMarker .documentEnd
    else if ch = '[' then l.openFlow .flowSequence
    else if ch = '\x7b' then l.openFlow .flowMapping
    else if ch = ']' then l.closeFlow .flowSequenceEnd
    else if ch = '\x7d' then l.closeFlow .flowMappingEnd
    else if ch = ',' then l.comma
    else if ch = '-' && ended then l.item
    else if ch = '?' && (l.inFlow || ended) then l.explicitKey
    else if ch = ':' && (l.inFlow || ended) then l.colon
    else if ch = '*' then l.standalone (nameToken .reference)
    else if ch = '&' then l.standalone (nameToken .anchor)
    else if ch = '!' then l.standalone tagToken
    else if ch = '|' && !l.inFlow then l.block false
    else if ch = '>' && !l.inFlow then l.block true
    else if ch = '\'' then l.standalone (quotedToken false)
    else if ch = '"' then l.standalone (quotedToken true)
    else if startsPlain l.inFlow ch (c.peekAt 1) then l.plain
    else .error .malformed

/-- Reads the next token. -/
def next (l : Lexer) : Except Flaw Lexer := do
  let l ← (l.skipToToken (l.cursor.rest.length + 1)).dropStaleKeys
  (l.unwind l.cursor.column).readToken

/-- The number of the first tokens that stay as they are. A key may still start at the other ones,
and then tokens are put in front of them. -/
def settled (l : Lexer) : Nat :=
  let pending := (l.possibleKey :: l.outerKeys).filter fun key =>
    match refresh l.cursor key with
    | .ok none => false
    | _ => true
  (pending.filterMap fun key => key.map PossibleKey.position).foldl min l.tokens.size

end Lexer

/-- The tokens of a text, up to the first flaw where there is one. -/
structure Tokens where
  list : List Token
  flaw : Option Flaw

/-- Reads tokens up to the end of the text. Of a flawed text those tokens are there that are known
without what is flawed. -/
def Lexer.readAll : Nat → Lexer → Tokens
  | 0, l => ⟨l.tokens.toList, some .malformed⟩
  | fuel + 1, l =>
    if l.finished then ⟨l.tokens.toList, none⟩
    else
      match l.next with
      | .ok l => readAll fuel l
      | .error flaw => ⟨l.tokens.toList.take l.settled, some flaw⟩

/-- The tokens of a text. One with a character that may not occur has none. -/
def tokens (cs : List Char) : Tokens :=
  if !cs.all isAllowed then ⟨[], some .malformed⟩
  else
    let start := if cs.head? == some (Char.ofNat 0xfeff) then (Cursor.start cs).next else .start cs
    Lexer.readAll (cs.length + 2) { cursor := start }

end PgVitals.Yaml
