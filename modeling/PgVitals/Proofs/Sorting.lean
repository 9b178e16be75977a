import PgVitals.Sorting
/-!
# Sorted lists

Where the comparison answers for all items and its answers are those of an order, sorting ends with
a list of the same items, in that order.

* `Orders` says what the comparison has to be like on the items to be sorted; it may fail on all
  others.
* `placeOf_spec` is the halving search. It is an induction over the part of the list that is left,
  with one fact on what lies in front and one on what lies behind.
* `insertSorted_spec` and `foldlM_insertSorted_spec` put one item into its place, and then all of
  them.
* `leadingRun_spec` is the run at the front of a list, which is in order already or falls, and is
  turned round then.
* `sortBy_spec` puts the two together.

The order may leave items equal, and what is said then is that none stands behind a later one; that
the sort keeps equal items in their order is not. Where the comparison fails, the sort fails, and
nothing is said.
-/

namespace PgVitals

variable {α ε : Type} {before : α → α → Except ε Bool} {S : α → Prop} {lt : α → α → Prop}

/-- On the items with a property, the comparison answers whether one stands before another in an
order. Not to stand behind is transitive there. -/
structure Orders (before : α → α → Except ε Bool) (S : α → Prop) (lt : α → α → Prop) : Prop where
  answers : ∀ {a b}, S a → S b → ∃ answer, before a b = .ok answer ∧ (answer = true ↔ lt a b)
  asymm : ∀ {a b}, S a → S b → lt a b → ¬ lt b a
  trans : ∀ {a b c}, S a → S b → S c → ¬ lt b a → ¬ lt c b → ¬ lt c a

/-- No item stands behind a later one. -/
def InOrder (lt : α → α → Prop) (items : List α) : Prop := items.Pairwise fun a b => ¬ lt b a

namespace Orders

variable {a b c x : α} {items : List α}

theorem irrefl (o : Orders before S lt) (ha : S a) : ¬ lt a a :=
  fun same => o.asymm ha ha same same

/-- What is before an item is before everything that does not stand in front of that item. -/
theorem lt_of_lt_of_not (o : Orders before S lt) (ha : S a) (hb : S b) (hc : S c)
    (first : lt a b) (then_ : ¬ lt c b) : lt a c :=
  Classical.byContradiction fun behind => o.trans hb hc ha then_ behind first

theorem trans_lt (o : Orders before S lt) (ha : S a) (hb : S b) (hc : S c) (hab : lt a b)
    (hbc : lt b c) : lt a c :=
  o.lt_of_lt_of_not ha hb hc hab (o.asymm hb hc hbc)

/-! ## Finding a place -/

theorem not_lt_of_le (o : Orders before S lt) (all : ∀ y ∈ items, S y)
    (sorted : InOrder lt items) {i j : Nat} {y z : α} (hi : items[i]? = some y)
    (hj : items[j]? = some z) (le : i ≤ j) : ¬ lt z y := by
  rcases Nat.lt_or_eq_of_le le with less | rfl
  · obtain ⟨boundI, rfl⟩ := List.getElem?_eq_some_iff.mp hi
    obtain ⟨boundJ, rfl⟩ := List.getElem?_eq_some_iff.mp hj
    exact List.pairwise_iff_getElem.mp sorted i j boundI boundJ less
  · rw [hi] at hj
    cases hj
    exact o.irrefl (all y (List.mem_of_getElem? hi))

/-- Halving finds the place behind the items that `x` is not before. Those in front of `low` are
known to be such, and those from `high` on not to be. -/
theorem placeOf_spec (o : Orders before S lt) (hx : S x) (all : ∀ y ∈ items, S y)
    (sorted : InOrder lt items) {low high : Nat} (le : low ≤ high) (within : high ≤ items.length)
    (front : ∀ (j : Nat) (y : α), items[j]? = some y → j < low → ¬ lt x y)
    (back : ∀ (j : Nat) (y : α), items[j]? = some y → high ≤ j → lt x y) :
    ∃ place, placeOf before items.toArray x low high = .ok place ∧ place ≤ items.length ∧
      ∀ (j : Nat) (y : α), items[j]? = some y → (lt x y ↔ place ≤ j) := by
  have known : ∀ {j : Nat} {y : α}, items[j]? = some y → S y :=
    fun here => all _ (List.mem_of_getElem? here)
  induction size : high - low using Nat.strongRecOn generalizing low high with
  | ind size ih =>
    unfold placeOf
    split
    · rename_i less
      have inside : low + (high - low) / 2 < items.length := by omega
      have middle : items[low + (high - low) / 2]? = some items[low + (high - low) / 2] :=
        List.getElem?_eq_getElem inside
      generalize items[low + (high - low) / 2] = m at middle
      obtain ⟨answer, compared, means⟩ := o.answers hx (known middle)
      simp only [List.getElem?_toArray, middle, compared]
      cases answer with
      | true =>
        -- `x` is before the middle, and so before everything behind it.
        refine ih _ ?_ (by omega) (by omega) front (fun j y here above => ?_) rfl
        · omega
        · exact o.lt_of_lt_of_not hx (known middle) (known here) (means.mp rfl)
            (o.not_lt_of_le all sorted middle here above)
      | false =>
        -- `x` is not before the middle, and so before nothing in front of it.
        have notBefore : ¬ lt x m := fun isBefore => Bool.false_ne_true (means.mpr isBefore)
        refine ih _ ?_ (by omega) (by omega) (fun j y here below => ?_) back rfl
        · omega
        · exact o.trans (known here) (known middle) hx
            (o.not_lt_of_le all sorted here middle (by omega)) notBefore
    · refine ⟨low, rfl, by omega, fun j y here => ⟨fun isBefore => ?_, fun above => ?_⟩⟩
      · exact Nat.le_of_not_lt fun below => front j y here below isBefore
      · exact back j y here (by omega)

/-- Putting an item into its place keeps a list in order. -/
theorem insertSorted_spec (o : Orders before S lt) (hx : S x) (all : ∀ y ∈ items, S y)
    (sorted : InOrder lt items) :
    ∃ result, insertSorted before items x = .ok result ∧ result.Perm (x :: items) ∧
      InOrder lt result := by
  have beyond : ∀ (j : Nat) (y : α), items[j]? = some y → items.length ≤ j → lt x y :=
    fun j y here after => absurd here (by simp [List.getElem?_eq_none after])
  obtain ⟨place, found, within, splits⟩ :=
    o.placeOf_spec hx all sorted (Nat.zero_le _) (Nat.le_refl _) nofun beyond
  have front : ∀ y ∈ items.take place, ¬ lt x y := by
    intro y member isBefore
    obtain ⟨j, here⟩ := List.mem_iff_getElem?.mp member
    rw [List.getElem?_take] at here
    split at here
    · rename_i below
      exact absurd ((splits j y here).mp isBefore) (Nat.not_le_of_lt below)
    · cases here
  have rear : ∀ y ∈ items.drop place, lt x y := by
    intro y member
    obtain ⟨j, here⟩ := List.mem_iff_getElem?.mp member
    rw [List.getElem?_drop] at here
    exact (splits _ y here).mpr (Nat.le_add_right _ _)
  refine ⟨items.take place ++ x :: items.drop place, ?_, ?_, ?_⟩
  · unfold insertSorted
    rw [found]
    rfl
  · refine List.perm_middle.trans ?_
    rw [List.take_append_drop]
  · rw [InOrder, ← List.take_append_drop place items] at sorted
    obtain ⟨frontSorted, rearSorted, apart⟩ := List.pairwise_append.mp sorted
    have inRear : ∀ y ∈ items.drop place, ¬ lt y x := fun y member =>
      o.asymm hx (all y (List.mem_of_mem_drop member)) (rear y member)
    refine List.pairwise_append.mpr
      ⟨frontSorted, List.pairwise_cons.mpr ⟨inRear, rearSorted⟩, fun a inFront b inBack => ?_⟩
    rcases List.mem_cons.mp inBack with rfl | inBack
    · exact front a inFront
    · exact apart a inFront b inBack

theorem foldlM_insertSorted_spec (o : Orders before S lt) {others : List α}
    (all : ∀ y ∈ items, S y) (rest : ∀ y ∈ others, S y) (sorted : InOrder lt items) :
    ∃ result, others.foldlM (insertSorted before) items = .ok result ∧
      result.Perm (items ++ others) ∧ InOrder lt result := by
  induction others generalizing items with
  | nil => exact ⟨items, rfl, by rw [List.append_nil], sorted⟩
  | cons x others ih =>
    obtain ⟨hx, rest⟩ := List.forall_mem_cons.mp rest
    obtain ⟨more, inserted, perm, moreSorted⟩ := o.insertSorted_spec hx all sorted
    have moreAll : ∀ y ∈ more, S y := by
      intro y member
      rcases List.mem_cons.mp (perm.subset member) with rfl | member
      · exact hx
      · exact all y member
    obtain ⟨result, folded, together, resultSorted⟩ := ih moreAll rest moreSorted
    refine ⟨result, ?_, together.trans ?_, resultSorted⟩
    · rw [List.foldlM_cons, inserted]
      exact folded
    · exact (perm.append_right others).trans List.perm_middle.symm

/-! ## The run in front -/

/-- How neighbours stand in a run: each before the one in front of it, or not so. -/
def Steps (lt : α → α → Prop) (falling : Bool) (a b : α) : Prop := falling = true ↔ lt b a

theorem Steps.trans (o : Orders before S lt) {falling : Bool} (ha : S a) (hb : S b) (hc : S c)
    (first : Steps lt falling a b) (second : Steps lt falling b c) : Steps lt falling a c := by
  cases falling with
  | true => exact ⟨fun _ => o.trans_lt hc hb ha (second.mp rfl) (first.mp rfl), fun _ => rfl⟩
  | false =>
    have notFirst : ¬ lt b a := fun isBefore => nomatch first.mpr isBefore
    have notSecond : ¬ lt c b := fun isBefore => nomatch second.mpr isBefore
    exact ⟨nofun, fun isBefore => absurd isBefore (o.trans ha hb hc notFirst notSecond)⟩

/-- A run becomes longer by an item in front of its first. -/
theorem Steps.cons (o : Orders before S lt) {falling : Bool} {run : List α} (hx : S x)
    (all : ∀ y ∈ a :: run, S y) (step : Steps lt falling x a)
    (steps : (a :: run).Pairwise (Steps lt falling)) :
    (x :: a :: run).Pairwise (Steps lt falling) := by
  refine List.pairwise_cons.mpr ⟨fun y member => ?_, steps⟩
  obtain ⟨ha, -⟩ := List.forall_mem_cons.mp all
  have hy := all y member
  rcases List.mem_cons.mp member with rfl | member
  · exact step
  · exact step.trans o hx ha hy ((List.pairwise_cons.mp steps).1 y member)

/-- A run that is turned round where it falls is in order. -/
theorem inOrder_run (o : Orders before S lt) {falling : Bool} {run : List α}
    (all : ∀ y ∈ run, S y) (steps : run.Pairwise (Steps lt falling)) :
    InOrder lt (if falling then run.reverse else run) := by
  cases falling with
  | true =>
    refine List.pairwise_reverse.mpr (steps.imp_of_mem fun ha hb step => ?_)
    exact o.asymm (all _ hb) (all _ ha) (step.mp rfl)
  | false => exact steps.imp fun step isBefore => nomatch step.mpr isBefore

/-- The run in front is taken off, and each of its items steps as the run does. -/
theorem leadingRun_spec (o : Orders before S lt) (falling : Bool) {last : α} {rest : List α}
    (hl : S last) (all : ∀ y ∈ rest, S y) :
    ∃ run others, leadingRun before falling last rest = .ok (run, others) ∧ rest = run ++ others ∧
      (last :: run).Pairwise (Steps lt falling) := by
  induction rest generalizing last with
  | nil => exact ⟨[], [], rfl, rfl, List.pairwise_singleton _ _⟩
  | cons x rest ih =>
    obtain ⟨hx, all⟩ := List.forall_mem_cons.mp all
    obtain ⟨answer, compared, means⟩ := o.answers hx hl
    unfold leadingRun
    rw [compared]
    by_cases goesOn : answer = falling
    · obtain ⟨run, others, ran, rfl, steps⟩ := ih hx all
      refine ⟨x :: run, others, ?_, rfl, ?_⟩
      · simp only [goesOn, beq_self_eq_true, bind, Except.bind, if_true, ran]
        rfl
      · have step : Steps lt falling last x := by rw [Steps, ← goesOn, means]
        have known : ∀ y ∈ x :: run, S y :=
          List.forall_mem_cons.mpr ⟨hx, fun y member => all y (List.mem_append_left _ member)⟩
        exact Steps.cons o hl known step steps
    · refine ⟨[], x :: rest, ?_, rfl, List.pairwise_singleton _ _⟩
      have ends : (answer == falling) = false := by simpa using goesOn
      simp only [bind, Except.bind, ends]
      rfl

/-! ## Sorting -/

/-- **Sorting ends with the same items in order.** -/
theorem sortBy_spec (o : Orders before S lt) (all : ∀ y ∈ items, S y) :
    ∃ result, sortBy before items = .ok result ∧ result.Perm items ∧ InOrder lt result := by
  match items with
  | [] => exact ⟨[], rfl, .rfl, .nil⟩
  | [x] => exact ⟨[x], rfl, .rfl, List.pairwise_singleton _ _⟩
  | x :: y :: rest =>
    obtain ⟨hx, others⟩ := List.forall_mem_cons.mp all
    obtain ⟨hy, rest⟩ := List.forall_mem_cons.mp others
    obtain ⟨falling, compared, means⟩ := o.answers hy hx
    obtain ⟨run, behind, ran, rfl, steps⟩ := o.leadingRun_spec falling hy rest
    have known : ∀ z ∈ x :: y :: run, S z := fun z member =>
      all z (List.mem_append_left behind member)
    have whole := Steps.cons o hx (List.forall_mem_cons.mp known).2 means steps
    have turned : (if falling then (x :: y :: run).reverse else x :: y :: run).Perm
        (x :: y :: run) := by
      split
      · exact List.reverse_perm _
      · exact .rfl
    obtain ⟨result, folded, perm, sorted⟩ :=
      o.foldlM_insertSorted_spec (fun z member => known z (turned.subset member))
        (fun z member => rest z (List.mem_append_right _ member)) (o.inOrder_run known whole)
    refine ⟨result, ?_, perm.trans (turned.append_right behind), sorted⟩
    simp only [sortBy, compared, ran, bind, Except.bind]
    exact folded

end Orders

end PgVitals
