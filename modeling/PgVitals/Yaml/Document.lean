import PgVitals.Yaml.Lexer
import PgVitals.Yaml.Node
/-!
# Documents

The tokens of a text are put together to the nodes of its document. A collection has its number, and
is known by its anchor, before its parts are there, so that a reference can stand within what it
refers to.

* `Assembly` is what is known while nodes are made of tokens, and `Assemble` a step.
* `node` is a node with its properties; `blockItems`, `blockEntries`, `flowItems` and `flowEntries`
  are the parts of collections, one function for each production of the grammar.
* `document` is the root of the only document. A second document in a text is a flaw.

Collections may stand in one another only so deep, `depthLimit`, as they are made by functions that
call one another. The tokens are used up from the front, so the functions recurse on how many there
are.
-/

namespace PgVitals.Yaml

/-- What is known while nodes are made of tokens. -/
structure Assembly where
  tokens : List Token
  /-- Why there are no tokens after these. -/
  flaw : Flaw := .malformed
  nodes : Nodes := #[]
  anchors : List (String × Nat) := []
  handles : List (String × String) := []
  /-- The number of collections around the place that has been reached. -/
  depth : Nat := 0

/-- A step from tokens to nodes. -/
abbrev Assemble (α : Type) := StateT Assembly (Except Flaw) α

/-- How deep collections may stand in one another. -/
def depthLimit : Nat := 488

namespace Assemble

/-- The next token. -/
def peek : Assemble Token := do
  let s ← get
  match s.tokens with
  | t :: _ => return t
  | [] => throw s.flaw

/-- Passes over the next token. -/
def skip : Assemble Unit := modify fun s => { s with tokens := s.tokens.tail }

/-- Passes over a token that has to come next. -/
def expect (t : Token) : Assemble Unit := do
  if (← peek) = t then skip else throw .malformed

/-- Whether one of some tokens comes next. -/
def nextIsIn (ts : List Token) : Assemble Bool := do return ts.contains (← peek)

/-- A new node. -/
def make (tag : Tag) (content : Content) : Assemble Nat := do
  let s ← get
  set { s with nodes := s.nodes.push ⟨tag, content⟩ }
  return s.nodes.size

/-- A new node for an empty plain text. -/
def makeEmpty : Assemble Nat := make .null (.scalar "")

/-! ## Properties -/

/-- What stands in front of the content of a node. -/
structure Properties where
  anchor : Option String := none
  /-- The full name of the tag. -/
  tag : Option String := none

/-- The full name of a tag. -/
def fullTag (handle : Option String) (suffix : String) : Assemble String := do
  match handle with
  | none => return suffix
  | some handle =>
    match (← get).handles.lookup handle with
    | some start => return start ++ suffix
    | none => throw .malformed

/-- The anchor that comes next, where there is one. -/
def takeAnchor : Assemble (Option String) := do
  match ← peek with
  | .anchor name =>
    skip
    return some name
  | _ => return none

/-- The tag that comes next, where there is one. -/
def takeTag : Assemble (Option (Option String × String)) := do
  match ← peek with
  | .tag handle suffix =>
    skip
    return some (handle, suffix)
  | _ => return none

/-- An anchor and a tag, in any order. -/
def properties : Assemble Properties := do
  let first ← takeAnchor
  let tag ← takeTag
  let anchor ← if first.isNone && tag.isSome then takeAnchor else pure first
  match tag with
  | none => return ⟨anchor, none⟩
  | some (handle, suffix) => return ⟨anchor, some (← fullTag handle suffix)⟩

/-- Lets the anchor stand for a node. -/
def define (p : Properties) (id : Nat) : Assemble Unit :=
  match p.anchor with
  | none => pure ()
  | some name => modify fun s => { s with anchors := (name, id) :: s.anchors }

/-- Refuses an anchor that is there already. -/
def checkAnchor (p : Properties) : Assemble Unit := do
  if let some name := p.anchor then
    if ((← get).anchors.lookup name).isSome then throw .malformed

/-- The tag of a collection. -/
def collectionTag (p : Properties) (default : Tag) : Tag :=
  match p.tag with
  | none => default
  | some name => if name == "!" then default else .ofName name

/-- The tag of a scalar. -/
def scalarTag (p : Properties) (text : String) (isPlain : Bool) : Tag :=
  match p.tag with
  | none => if isPlain then .ofPlain text else .text
  | some name => if name == "!" then .ofPlain text else .ofName name

/-- A scalar. -/
def scalar (p : Properties) (text : String) (isPlain : Bool) : Assemble Nat := do
  let id ← make (scalarTag p text isPlain) (.scalar text)
  define p id
  return id

/-- A node that has properties and nothing else. -/
def bareNode (p : Properties) : Assemble Nat :=
  if p.anchor.isNone && p.tag.isNone then throw .malformed else scalar p "" true

/-- A collection, known by its anchor while its parts are made. -/
def collection (p : Properties) (default : Tag) (parts : Assemble Content) : Assemble Nat := do
  let depth := (← get).depth
  if depthLimit < depth then throw (.value .tooDeep)
  let id ← make (collectionTag p default) (.sequence [])
  define p id
  modify fun s => { s with depth := depth + 1 }
  let content ← parts
  modify fun s => { s with depth := depth, nodes := s.nodes.fill id content }
  return id

/-- A sequence. -/
def sequence (p : Properties) (items : Assemble (List Nat)) : Assemble Nat :=
  collection p .sequence (.sequence <$> items)

/-- A mapping. -/
def mapping (p : Properties) (entries : Assemble (List (Nat × Nat))) : Assemble Nat :=
  collection p .mapping (.mapping <$> entries)

/-! ## Nodes -/

mutual

/-- A node. Block collections are possible where `block`, and items without an indentation of their
own where `bare`. -/
def node (block bare : Bool) : Nat → Assemble Nat
  | 0 => throw .malformed
  | fuel + 1 => do
    match ← peek with
    | .reference name =>
      skip
      match (← get).anchors.lookup name with
      | some id => return id
      | none => throw .malformed
    | _ =>
      let p ← properties
      let next ← peek
      checkAnchor p
      match next with
      | .item => if bare then sequence p (bareItems fuel) else bareNode p
      | .scalar text isPlain =>
        skip
        scalar p text isPlain
      | .flowSequence =>
        skip
        sequence p (flowItems true fuel)
      | .flowMapping =>
        skip
        mapping p (flowEntries true fuel)
      | .blockSequence =>
        if block then
          skip
          sequence p (blockItems fuel)
        else bareNode p
      | .blockMapping =>
        if block then
          skip
          mapping p (blockEntries fuel)
        else bareNode p
      | _ => bareNode p

/-- The items of a block sequence. -/
def blockItems : Nat → Assemble (List Nat)
  | 0 => throw .malformed
  | fuel + 1 => do
    match ← peek with
    | .item =>
      skip
      let item ← nodeUnless [.item, .blockEnd] true false fuel
      return item :: (← blockItems fuel)
    | _ =>
      expect .blockEnd
      return []

/-- Items at the indentation of the mapping they are in. -/
def bareItems : Nat → Assemble (List Nat)
  | 0 => throw .malformed
  | fuel + 1 => do
    match ← peek with
    | .item =>
      skip
      let item ← nodeUnless [.item, .key, .value, .blockEnd] true false fuel
      return item :: (← bareItems fuel)
    | _ => return []

/-- The entries of a block mapping. -/
def blockEntries : Nat → Assemble (List (Nat × Nat))
  | 0 => throw .malformed
  | fuel + 1 => do
    match ← peek with
    | .key =>
      skip
      let key ← nodeUnless [.key, .value, .blockEnd] true true fuel
      let value ← valueUnless [.key, .value, .blockEnd] true true fuel
      return (key, value) :: (← blockEntries fuel)
    | _ =>
      expect .blockEnd
      return []

/-- The items of a flow sequence. An item with a key is a mapping of one entry. -/
def flowItems (isFirst : Bool) : Nat → Assemble (List Nat)
  | 0 => throw .malformed
  | fuel + 1 => do
    if ← nextIsIn [.flowSequenceEnd] then
      skip
      return []
    else
      if !isFirst then expect .comma
      match ← peek with
      | .key =>
        skip
        let item ← mapping {} (flowPair fuel)
        return item :: (← flowItems false fuel)
      | .flowSequenceEnd =>
        skip
        return []
      | _ =>
        let item ← node false false fuel
        return item :: (← flowItems false fuel)

/-- The only entry of a mapping that stands as an item of a flow sequence. -/
def flowPair : Nat → Assemble (List (Nat × Nat))
  | 0 => throw .malformed
  | fuel + 1 => do
    let key ← nodeUnless [.value, .comma, .flowSequenceEnd] false false fuel
    let value ← valueUnless [.comma, .flowSequenceEnd] false false fuel
    return [(key, value)]

/-- The entries of a flow mapping. -/
def flowEntries (isFirst : Bool) : Nat → Assemble (List (Nat × Nat))
  | 0 => throw .malformed
  | fuel + 1 => do
    if ← nextIsIn [.flowMappingEnd] then
      skip
      return []
    else
      if !isFirst then expect .comma
      match ← peek with
      | .key =>
        skip
        let key ← nodeUnless [.value, .comma, .flowMappingEnd] false false fuel
        let value ← valueUnless [.comma, .flowMappingEnd] false false fuel
        return (key, value) :: (← flowEntries false fuel)
      | .flowMappingEnd =>
        skip
        return []
      | _ =>
        let key ← node false false fuel
        let value ← makeEmpty
        return (key, value) :: (← flowEntries false fuel)

/-- A node, or an empty one where one of some tokens comes next. -/
def nodeUnless (ends : List Token) (block bare : Bool) : Nat → Assemble Nat
  | 0 => throw .malformed
  | fuel + 1 => do
    if ← nextIsIn ends then makeEmpty else node block bare fuel

/-- The value behind a key, or an empty one. -/
def valueUnless (ends : List Token) (block bare : Bool) : Nat → Assemble Nat
  | 0 => throw .malformed
  | fuel + 1 => do
    if ← nextIsIn [.value] then
      skip
      nodeUnless ends block bare fuel
    else makeEmpty

end

/-! ## The document -/

/-- What the handles stand for that need no directive. -/
def knownHandles : List (String × String) := [("!", "!"), ("!!", coreTags)]

/-- Takes over the directives in front of a document. -/
def directives : Nat → Bool → Assemble Unit
  | 0, _ => throw .malformed
  | fuel + 1, versioned => do
    match ← peek with
    | .directive d =>
      skip
      match d with
      | .version major =>
        if versioned || major ≠ 1 then throw .malformed
        directives fuel true
      | .handle handle start =>
        if ((← get).handles.lookup handle).isSome then throw .malformed
        modify fun s => { s with handles := (handle, start) :: s.handles }
        directives fuel versioned
      | .other => directives fuel versioned
    | _ => modify fun s => { s with handles := s.handles ++ knownHandles }

/-- The first line of a document, with the directives in front of it. -/
def opening (fuel : Nat) : Assemble Unit := do
  modify fun s => { s with handles := [] }
  directives fuel false
  expect .documentStart

/-- Nothing follows but ends of documents. The first line of another document is read before it is
refused. -/
def ends : Nat → Assemble Unit
  | 0 => throw .malformed
  | fuel + 1 => do
    match ← peek with
    | .documentEnd =>
      skip
      ends fuel
    | t => if t = .finish then pure () else do opening fuel; throw .malformed

/-- The root of the only document; none where there is no document. -/
def document (fuel : Nat) : Assemble (Option Nat) := do
  match ← peek with
  | .finish => return none
  | t =>
    let root ← if (t matches .directive _) || t = .documentStart then explicit else implicit
    ends fuel
    return some root
where
  /-- A document behind its first line. -/
  explicit : Assemble Nat := do
    opening fuel
    let next ← peek
    if (next matches .directive _) || [.documentStart, .documentEnd, .finish].contains next then
      makeEmpty
    else node true false fuel
  /-- A document without a first line. -/
  implicit : Assemble Nat := do
    modify fun s => { s with handles := knownHandles }
    node true false fuel

end Assemble

/-- The only document in a text, where it has one. -/
def Document.ofText? (cs : List Char) : Except Flaw (Option Document) := do
  let all := tokens cs
  let (root, s) ← (Assemble.document (4 * all.list.length + 8)).run
    { tokens := all.list, flaw := all.flaw.getD .malformed }
  return root.map fun id => ⟨s.nodes, id⟩

end PgVitals.Yaml
