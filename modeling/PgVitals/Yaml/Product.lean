import PgVitals.Yaml.Document
import PgVitals.Yaml.ScalarValue
/-!
# What nodes produce

A scalar produces a value, and a collection a product that holds the numbers of its parts. Scalars
are read when they are reached; collections wait in a queue and are filled one after the other, so
of several flaws in a document the outermost one counts.

A mapping takes over the entries of the mappings that are merged into it. Its own entries come after
them, and of entries with one key the last counts.

* `Workshop` is what is known while products are made, and `produce` makes the product of a node,
  unless it is there already.
* `flatten` carries out the merges of a mapping. They change the node, which matters where a mapping
  is merged into several others.
* `fill` fills a collection, and `fillAll` those that wait, and then those that wait by then.
* `Document.products` are the products of all nodes of a document.

No collection is a key, and a scalar that changes is none either. The recursion of merges is
bounded, since a mapping may be merged into itself.
-/

namespace PgVitals.Yaml

open PgVitals.Number

/-- What a node produces. -/
inductive Product where
  | value (v : Value)
  /-- What every text for no number produces, one and the same value. -/
  | notANumber
  | list (items : List Nat)
  | pairs (items : List (Nat × Nat))
  | map (entries : List (Nat × Nat))
  | set (items : List Nat)

/-- The product of a collection before it is filled. -/
def Product.unfilled? : Tag → Option Product
  | .sequence => some (.list [])
  | .mapping => some (.map [])
  | .set => some (.set [])
  | .omap => some (.pairs [])
  | .pairs => some (.pairs [])
  | _ => none

/-- Whether a product can be a key: collections change, and are none. -/
def Product.isKey : Product → Bool
  | .value _ => true
  | .notANumber => true
  | _ => false

/-- Whether two products of scalars are equal as keys. -/
def Product.same : Product → Product → Bool
  | .notANumber, .notANumber => true
  | .value v, .value w => v.same w
  | _, _ => false

/-- What is known while products are made. -/
structure Workshop where
  nodes : Nodes
  /-- The products that are there already, by the numbers of their nodes. -/
  products : Array (Option Product)
  /-- The collections to fill, the last first. -/
  waiting : List Nat := []

/-- A step of making products. -/
abbrev Make (α : Type) := StateT Workshop (Except Flaw) α

namespace Make

/-- The node of a number. -/
def node (id : Nat) : Make Node := do return (← get).nodes.node id

/-- The product of a node, where it is there already. -/
def product? (id : Nat) : Make (Option Product) := do return ((← get).products[id]?).join

/-- Keeps the product of a node. -/
def keep (id : Nat) (p : Product) : Make Unit :=
  modify fun s => { s with products := s.products.setIfInBounds id (some p) }

/-! ## Scalars -/

/-- The text of a node. That of a mapping is the text of its main value. -/
def text : Nat → Nat → Make String
  | 0, _ => throw (.value .tooDeep)
  | fuel + 1, id => do
    let s ← get
    match (s.nodes.node id).content with
    | .scalar text => return text
    | .sequence _ => throw .malformed
    | .mapping entries =>
      match entries.find? fun entry => (s.nodes.node entry.1).tag = .main with
      | some (_, value) => text fuel value
      | none => throw .malformed

/-- The product of a node whose tag is that of a scalar. A moment is not read out of a
collection. -/
def scalar (n : Node) (id : Nat) : Make Product := do
  if [Tag.merge, .main, .unknown].contains n.tag then throw .malformed
  let text ← text ((← get).nodes.size + 1) id
  match n.tag, n.content with
  | .timestamp, .mapping _ => throw (.value .wrongKind)
  | tag, _ =>
    if tag = .float ∧ isNotANumber text then return .notANumber
    else .value <$> (scalarValue tag text : Except Flaw Value)

/-- Makes the product of a node, unless it is there already. A collection is left to be filled. -/
def produce (id : Nat) : Make Product := do
  match ← product? id with
  | some p => return p
  | none =>
    let n ← node id
    match Product.unfilled? n.tag with
    | some p =>
      keep id p
      modify fun s => { s with waiting := id :: s.waiting }
      return p
    | none =>
      let p ← scalar n id
      keep id p
      return p

/-! ## Merging -/

/-- The entries of a mapping. -/
def entries (id : Nat) : Make (List (Nat × Nat)) := do
  match (← get).nodes.entries? id with
  | some entries => return entries
  | none => throw .malformed

/-- The key of a main value counts as a text from now on. -/
def makePlain (key : Nat) : Make Unit := do
  if (← node key).tag = .main then
    modify fun s => { s with nodes := s.nodes.retag key .text }

/-- Takes the first merge out of a mapping: the node of what is merged. -/
def takeMerge? (id : Nat) : Make (Option Nat) := do
  let all ← entries id
  let ns := (← get).nodes
  match all.findIdx? fun entry => (ns.node entry.1).tag = .merge with
  | none => return none
  | some i =>
    modify fun s => { s with nodes := s.nodes.fill id (.mapping (all.eraseIdx i)) }
    return all[i]?.map Prod.snd

mutual

/-- Carries out the merges of a mapping. -/
def flatten : Nat → Nat → Make Unit
  | 0, _ => throw .malformed
  | fuel + 1, id => do
    (← entries id).forM fun entry => makePlain entry.1
    let merged ← mergedEntries fuel id
    let own ← entries id
    modify fun s => { s with nodes := s.nodes.fill id (.mapping (merged ++ own)) }

/-- The entries that are merged into a mapping, whose merges are gone then. -/
def mergedEntries : Nat → Nat → Make (List (Nat × Nat))
  | 0, _ => throw .malformed
  | fuel + 1, id => do
    match ← takeMerge? id with
    | none => return []
    | some source =>
      let first ← entriesOf fuel source
      return first ++ (← mergedEntries fuel id)

/-- The entries of what is merged: a mapping, or a list of mappings, of which the first counts
most. -/
def entriesOf : Nat → Nat → Make (List (Nat × Nat))
  | 0, _ => throw .malformed
  | fuel + 1, source => do
    match (← node source).content with
    | .sequence items =>
      let all ← items.mapM (flattened fuel)
      return all.reverse.flatten
    | _ => flattened fuel source

/-- The entries of a mapping after its merges. -/
def flattened : Nat → Nat → Make (List (Nat × Nat))
  | 0, _ => throw .malformed
  | fuel + 1, id => do
    flatten fuel id
    entries id

end

/-! ## Filling -/

/-- Puts a value under a key. A key that is there already keeps its place. -/
def insertEntry (same : Nat → Bool) (key value : Nat) : List (Nat × Nat) → List (Nat × Nat)
  | [] => [(key, value)]
  | (k, v) :: rest =>
    if same k then (k, value) :: rest else (k, v) :: insertEntry same key value rest

/-- Whether two nodes produce equal keys. -/
def sameKey (products : Array (Option Product)) (a b : Nat) : Bool :=
  a = b ||
    match products[a]?.join, products[b]?.join with
    | some p, some q => p.same q
    | _, _ => false

/-- Produces an entry of a mapping and puts it behind others. No collection is a key. -/
def addEntry (all : List (Nat × Nat)) (entry : Nat × Nat) : Make (List (Nat × Nat)) := do
  let (key, value) := entry
  if (← produce key).isKey then
    let _ ← produce value
    return insertEntry (sameKey (← get).products key) key value all
  else throw .malformed

/-- The entries of the product of a mapping. -/
def mapEntries (fuel id : Nat) : Make (List (Nat × Nat)) := do
  flatten fuel id
  (← entries id).foldlM addEntry []

/-- The only entry of an item in a list of pairs. -/
def pair (id : Nat) : Make (Nat × Nat) := do
  match ← entries id with
  | [(key, value)] =>
    let _ ← produce key
    let _ ← produce value
    return (key, value)
  | _ => throw .malformed

/-- The items of a sequence. -/
def items (id : Nat) : Make (List Nat) := do
  match (← node id).content with
  | .sequence items => return items
  | _ => throw .malformed

/-- Fills the product of a collection. -/
def fill (fuel id : Nat) : Make Unit := do
  match (← node id).tag with
  | .sequence =>
    let all ← items id
    all.forM fun item => do
      let _ ← produce item
    keep id (.list all)
  | .mapping => keep id (.map (← mapEntries fuel id))
  | .set => keep id (.set ((← mapEntries fuel id).map Prod.fst))
  | _ => keep id (.pairs (← (← items id).mapM pair))

/-- Fills the collections that wait, and then those that wait by then. -/
def fillAll (fuel : Nat) : Nat → Make Unit
  | 0 => throw .malformed
  | rounds + 1 => do
    match (← get).waiting with
    | [] => return
    | waiting =>
      modify fun s => { s with waiting := [] }
      waiting.reverse.forM (fill fuel)
      fillAll fuel rounds

end Make

/-- The products of the nodes of a document. -/
def Document.products (d : Document) : Except Flaw (Array (Option Product)) := do
  let start : Workshop := ⟨d.nodes, Array.replicate d.nodes.size none, []⟩
  let fuel := 4 * d.nodes.entryCount + 4
  let ((), s) ← (do
    let _ ← Make.produce d.root
    Make.fillAll fuel (d.nodes.size + 1) : Make Unit).run start
  return s.products

end PgVitals.Yaml
