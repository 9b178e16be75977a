import PgVitals.Yaml.Product
/-!
# Reading YAML

A text holds at most one document. Its value is made of nulls, truth values, numbers, moments,
texts, bytes and collections of them. A collection that holds itself is written out down to where it
comes again.

A document is read in four steps. Characters become tokens in `Yaml/Lexer`, tokens become nodes in
`Yaml/Document`, nodes produce products in `Yaml/Product`, and here the products are put together to
values.

* `value` is the value of a node. A node that is referred to from several places has one value, and
  a reference from within becomes a mark for the loop.
* `inPlaces` is the order of the members of a set: whole numbers stand in the places of a table, and
  other members in the order in which they came.
* `read` is the value of a text, if there is a document in it.

This is version 1.1 of the language. Which of several flaws is found first is part of what is
modelled, as far as it decides between a flaw of the document and a value that does not convert. The
words for a flaw are not, since they are only shown.
-/

namespace PgVitals.Yaml

/-- What is known while values are made of products. -/
structure Unfolding where
  /-- The values that are there already, by the numbers of their nodes. Values with loops are not
  kept, for they hang on what is around them. -/
  values : Array (Option Value)
  /-- Whether a loop was met. -/
  loops : Bool := false

/-- A step of making values. -/
abbrev Unfold (α : Type) := StateM Unfolding α

/-! ## Sets -/

/-- The number of places for the members of a set: a power of two, more than twice their number. -/
def placeCount (members : Nat) : Nat :=
  if members < 5 then 8 else Number.twoTo (Nat.log2 (2 * members) + 1)

/-- The place of a whole number in a set. The number before zero has the place of the one before
it. -/
def place? (places : Nat) : Value → Option Int
  | .int n => some ((if n = -1 then -2 else n) % (places : Int))
  | _ => none

/-- The members of a set in the order one meets them: whole numbers by their places, as long as no
two have the same one, and other members as they were put in. -/
def inPlaces (members : List Value) : List Value :=
  match members.mapM (place? (placeCount members.length)) with
  | none => members
  | some places =>
    if places.Nodup then
      (((places.zip members).mergeSort fun a b => decide (a.1 ≤ b.1)).map Prod.snd)
    else members

/-! ## Collections -/

namespace Unfold

/-- A collection that comes again within itself. -/
def loop (isMap : Bool) : Unfold Value := do
  modify fun s => { s with loops := true }
  return .loop isMap

/-- Keeps the value of a node if no loop is in it. -/
def keeping (id : Nat) (make : Unfold Value) : Unfold Value := do
  let before := (← get).loops
  modify fun s => { s with loops := false }
  let v ← make
  modify fun s =>
    { values := if s.loops then s.values else s.values.setIfInBounds id (some v)
      loops := before || s.loops }
  return v

/-- The value of a node below the nodes `around`. Collections of the first `fresh` levels do not
count as such. -/
def value (products : Array (Option Product)) : Nat → Nat → List Nat → Nat → Unfold Value
  | 0, _, _, _ => loop false
  | fuel + 1, fresh, around, id => do
    match (← get).values[id]?.join with
    | some v => return v
    | none =>
      let isAround := around.contains id
      let inner := value products fuel (fresh - 1) (if fresh = 0 then id :: around else around)
      let entry := fun ((k, v) : Nat × Nat) => do return (← inner k, ← inner v)
      keeping id <|
        match products[id]?.join with
        | none => pure .null
        | some (.value v) => pure v
        | some .notANumber => pure (.float Number.notANumber)
        | some (.list items) => if isAround then loop false else .list <$> items.mapM inner
        | some (.pairs items) =>
          if isAround then loop false
          else (fun all => .list (all.map fun (k, v) => .pair k v)) <$> items.mapM entry
        | some (.map entries) => if isAround then loop true else .map <$> entries.mapM entry
        | some (.set items) => (fun all => .set (inPlaces all)) <$> items.mapM inner

end Unfold

/-- The value of a document. Its root and the collections in it are no loops where they come
again: each value in such a collection stands for itself. -/
def Document.value (d : Document) : Except Flaw Value := do
  let products ← d.products
  let start : Unfolding := { values := Array.replicate products.size none }
  return ((Unfold.value products (products.size + 3) 2 [] d.root).run start).1

/-- The value a text holds, where it holds one. -/
def read (s : String) : Except Flaw (Option Value) := do
  match ← Document.ofText? s.toList with
  | none => return none
  | some d => return some (← d.value)

end PgVitals.Yaml
