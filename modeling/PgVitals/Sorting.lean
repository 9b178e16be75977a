/-!
# Sorting with comparisons that may fail

Items are sorted by insertion: the list starts with a run that is in order already, and each item
behind it is put into its place by halving. Comparing may fail, and the first comparison that fails
ends the sorting. Items of which neither is before the other keep their order.

* `leadingRun` is the run in front, which may fall; then it is turned round.
* `placeOf` is the halving search, and `insertSorted` puts one item into its place.
* `sortBy` sorts a list.

Which items are compared with one another, and in which order, is part of what is modelled: of items
that cannot be compared, the first such pair decides how the sorting ends. This is how lists of
fewer than 64 items are sorted; longer ones are merged from runs, which makes a difference only to
the pairs that are compared.
-/

namespace PgVitals

variable {α ε : Type}

/-- The number of items, among those from `low` to `high`, that an item goes behind. -/
def placeOf (before : α → α → Except ε Bool) (items : Array α) (x : α) (low high : Nat) :
    Except ε Nat :=
  if _ : low < high then
    let middle := low + (high - low) / 2
    match items[middle]? with
    | none => .ok low
    | some y =>
      match before x y with
      | .error e => .error e
      | .ok true => placeOf before items x low middle
      | .ok false => placeOf before items x (middle + 1) high
  else .ok low
termination_by high - low

/-- Puts an item behind the items that it is not before. -/
def insertSorted (before : α → α → Except ε Bool) (items : List α) (x : α) :
    Except ε (List α) := do
  let place ← placeOf before items.toArray x 0 items.length
  return items.take place ++ x :: items.drop place

/-- The items in front each of which is before the one in front of it (`falling`), or is not; and
the other items. -/
def leadingRun (before : α → α → Except ε Bool) (falling : Bool) (last : α) :
    List α → Except ε (List α × List α)
  | [] => .ok ([], [])
  | x :: rest => do
    if (← before x last) == falling then
      let (run, others) ← leadingRun before falling x rest
      return (x :: run, others)
    else return ([], x :: rest)

/-- Sorts a list. -/
def sortBy (before : α → α → Except ε Bool) : List α → Except ε (List α)
  | [] => .ok []
  | [x] => .ok [x]
  | x :: y :: rest => do
    let falling ← before y x
    let (run, others) ← leadingRun before falling y rest
    let start := if falling then (x :: y :: run).reverse else x :: y :: run
    others.foldlM (insertSorted before) start

end PgVitals
