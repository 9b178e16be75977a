import Mathlib.Algebra.Order.BigOperators.Group.List
import Mathlib.Algebra.Order.Ring.Int
import PgVitals.FreeSpace
import PgVitals.Proofs.Monitor.Difference
/-!
# Groups and their shades

A map cuts the blocks of a relation into groups of one size, the last of which may be smaller. The
size is such that there are about as many groups as wanted. Each group has a shade of its own, which
says what part of the group is free, and the smaller group is measured by its own length.

* `Cut` says of a list and its groups how they belong together, and `cut_groupsOf` that the groups
  of the program are such a cut. Induction is over the groups, as they are taken off the front.
* `Cut.length_between` determines their number, and `groupSize_spec` chooses the size: where there
  are more blocks than wanted groups, there are no fewer groups than wanted, and fewer than twice as
  many.
* `tint` is the part of a group that is free, and `Fitting.tint_eq_palest_iff` says that the palest
  shade is that of groups without a used byte. `tint_mono` and `tints_mono` say that more free bytes
  make no group less pale.
* `Mapped` puts it together for a relation, and `exists_mapped` says that every relation with
  `Fitting` blocks is mapped so.

Shades are whole numbers, rounded down, so the palest one says more than that there is little used:
nothing is. A relation without blocks has no groups. That no block has more free bytes than it has
bytes is what the extension reports, and is assumed.
-/

namespace PgVitals.FreeSpace

variable {size more : Nat} {blockSize : Int} {free freer group : List Int}
  {groups : List (List Int)}

/-! ## Groups -/

/-- A list cut into groups of a size, the last of which may be smaller. -/
structure Cut (size : Nat) (free : List Int) (groups : List (List Int)) : Prop where
  whole : groups.flatten = free
  inhabited : ∀ group ∈ groups, group ≠ []
  full : ∀ group ∈ groups.dropLast, group.length = size
  bounded : ∀ group ∈ groups, group.length ≤ size

theorem flatten_groupsOf (more : Nat) (free : List Int) : (groupsOf more free).flatten = free := by
  induction free using groupsOf.induct more with
  | case1 =>
    rw [groupsOf]
    rfl
  | case2 bytes rest ih =>
    rw [groupsOf, List.flatten_cons, ih, List.cons_append, List.take_append_drop]

theorem groupsOf_eq_nil : groupsOf more free = [] ↔ free = [] := by
  cases free <;> simp [groupsOf]

theorem inhabited_groupsOf (member : group ∈ groupsOf more free) : group ≠ [] := by
  induction free using groupsOf.induct more with
  | case1 => simp [groupsOf] at member
  | case2 bytes rest ih =>
    rw [groupsOf] at member
    obtain rfl | later := List.mem_cons.mp member
    · exact List.cons_ne_nil _ _
    · exact ih later

theorem length_le_of_mem_groupsOf (member : group ∈ groupsOf more free) :
    group.length ≤ more + 1 := by
  induction free using groupsOf.induct more with
  | case1 => simp [groupsOf] at member
  | case2 bytes rest ih =>
    rw [groupsOf] at member
    obtain rfl | later := List.mem_cons.mp member
    · simp only [List.length_cons, List.length_take]
      omega
    · exact ih later

/-- A group with another one behind it is full. -/
theorem length_eq_of_mem_dropLast_groupsOf (member : group ∈ (groupsOf more free).dropLast) :
    group.length = more + 1 := by
  induction free using groupsOf.induct more with
  | case1 => simp [groupsOf] at member
  | case2 bytes rest ih =>
    rw [groupsOf] at member
    by_cases last : groupsOf more (rest.drop more) = []
    · simp [last] at member
    rw [List.dropLast_cons_of_ne_nil last] at member
    obtain rfl | later := List.mem_cons.mp member
    · have behind : rest.drop more ≠ [] := fun empty => last (groupsOf_eq_nil.mpr empty)
      have enough : more < rest.length := by simpa using behind
      simp only [List.length_cons, List.length_take]
      omega
    · exact ih later

theorem cut_groupsOf (more : Nat) (free : List Int) : Cut (more + 1) free (groupsOf more free) where
  whole := flatten_groupsOf more free
  inhabited _ := inhabited_groupsOf
  full _ := length_eq_of_mem_dropLast_groupsOf
  bounded _ := length_le_of_mem_groupsOf

/-- What stands at the same place of two lists is in the same place of their groups. -/
theorem forall₂_groupsOf {R : Int → Int → Prop} (h : List.Forall₂ R free freer) :
    List.Forall₂ (List.Forall₂ R) (groupsOf more free) (groupsOf more freer) := by
  induction free using groupsOf.induct more generalizing freer with
  | case1 =>
    cases h
    simp [groupsOf]
  | case2 bytes rest ih =>
    obtain _ | ⟨first, others⟩ := h
    rw [groupsOf, groupsOf]
    exact .cons (.cons first (List.forall₂_take more others)) (ih (List.forall₂_drop more others))

/-! ## The number of groups -/

/-- All groups but the last one are full, so they determine how many there are. -/
theorem Cut.length_between (h : Cut size free groups) (blocks : free ≠ []) :
    (groups.length - 1) * size < free.length ∧ free.length ≤ groups.length * size := by
  have present : groups ≠ [] := by
    rintro rfl
    exact blocks h.whole.symm
  have last := List.getLast_mem present
  have counted : free.length = (groups.length - 1) * size + (groups.getLast present).length := by
    have full : groups.dropLast.map List.length = groups.dropLast.map fun _ => size :=
      List.map_congr_left h.full
    rw [← h.whole]
    conv_lhs => rw [← List.dropLast_append_getLast present]
    rw [List.flatten_append, List.length_append, List.length_flatten, full, List.map_const',
      List.sum_replicate_nat, List.length_dropLast, List.flatten_singleton]
  have inhabited := List.length_pos_iff.mpr (h.inhabited _ last)
  have bounded := h.bounded _ last
  have count : groups.length = groups.length - 1 + 1 :=
    (Nat.succ_pred_eq_of_pos (List.length_pos_iff.mpr present)).symm
  have spread : groups.length * size = (groups.length - 1) * size + size := by
    conv_lhs => rw [count, Nat.succ_mul]
  omega

theorem Cut.length_of_single (h : Cut 1 free groups) : groups.length = free.length := by
  by_cases blocks : free = []
  · subst blocks
    have empty : groups = [] := by
      by_contra present
      obtain ⟨group, member⟩ := List.exists_mem_of_ne_nil groups present
      exact h.inhabited group member (List.flatten_eq_nil_iff.mp h.whole group member)
    rw [empty]
    rfl
  · have between := h.length_between blocks
    have : 0 < free.length := List.length_pos_iff.mpr blocks
    omega

/-- Where the size is the quotient of blocks and wanted groups, there are no fewer groups than
wanted, and fewer than twice as many. -/
theorem Cut.length_of_quotient {wanted : Nat} (h : Cut (free.length / wanted) free groups)
    (any : 1 ≤ wanted) (crowded : wanted < free.length) :
    wanted ≤ groups.length ∧ groups.length ≤ 2 * wanted - 1 := by
  have blocks : free ≠ [] := List.length_pos_iff.mp (by omega)
  obtain ⟨above, below⟩ := h.length_between blocks
  have positive : 1 ≤ free.length / wanted := (Nat.one_le_div_iff any).mpr crowded.le
  have division := Nat.div_add_mod free.length wanted
  have rest := Nat.mod_lt free.length any
  generalize free.length / wanted = quotient at *
  constructor
  · refine Nat.le_of_mul_le_mul_right ?_ positive
    omega
  · -- With one group more there would be more blocks than the quotient leaves room for.
    by_contra more
    have spread : (2 * wanted - 1) * quotient ≤ (groups.length - 1) * quotient :=
      Nat.mul_le_mul_right _ (by omega)
    have left : (wanted - 1) * 1 ≤ (wanted - 1) * quotient := Nat.mul_le_mul_left _ positive
    have split : (2 * wanted - 1) * quotient = wanted * quotient + (wanted - 1) * quotient := by
      rw [← Nat.add_mul]
      congr 1
      omega
    omega

/-- The size of groups is at least one, and such that their number is about the one wanted. -/
theorem groupSize_spec (blocks : Nat) {wanted : Nat} (any : 1 ≤ wanted) :
    ∃ size : Nat, groupSize blocks wanted = .ok size ∧ 1 ≤ size ∧
      size = if blocks ≤ wanted then 1 else blocks / wanted := by
  refine ⟨_, ?_, ?_, rfl⟩
  · unfold groupSize quotient
    by_cases few : blocks ≤ wanted
    · rw [if_pos (by omega), if_pos few]
      rfl
    · rw [if_neg (by omega), if_neg (by omega), if_neg few,
        Int.fdiv_eq_ediv_of_nonneg _ (by omega), Int.natCast_ediv]
  · split
    · exact le_rfl
    · exact (Nat.one_le_div_iff any).mpr (by omega)

/-! ## Shades -/

/-- Every block has some free bytes, and no more than it has bytes. -/
def Fitting (blockSize : Int) (free : List Int) : Prop :=
  ∀ bytes ∈ free, 0 ≤ bytes ∧ bytes ≤ blockSize

instance : Decidable (Fitting blockSize free) :=
  inferInstanceAs (Decidable (∀ bytes ∈ free, 0 ≤ bytes ∧ bytes ≤ blockSize))

/-- The part of a group that is free, out of `palest`. -/
def tint (blockSize : Int) (group : List Int) : Int :=
  palest * group.sum / (blockSize * group.length)

theorem Cut.fitting (h : Cut size free groups) (fitting : Fitting blockSize free)
    (member : group ∈ groups) : Fitting blockSize group := by
  intro bytes inside
  refine fitting bytes ?_
  rw [← h.whole]
  exact List.mem_flatten_of_mem member inside

theorem Fitting.sum_nonneg (h : Fitting blockSize group) : 0 ≤ group.sum :=
  List.sum_nonneg fun bytes member => (h bytes member).1

theorem Fitting.sum_le (h : Fitting blockSize group) : group.sum ≤ blockSize * group.length := by
  have bound := List.sum_le_card_nsmul group blockSize fun bytes member => (h bytes member).2
  rwa [nsmul_eq_mul, Int.mul_comm] at bound

/-- A group has as many free bytes as it can have where every block is free. -/
theorem Fitting.le_sum_iff (h : Fitting blockSize group) :
    blockSize * group.length ≤ group.sum ↔ ∀ bytes ∈ group, bytes = blockSize := by
  induction group with
  | nil => simp
  | cons bytes rest ih =>
    obtain ⟨first, others⟩ := List.forall_mem_cons.mp h
    have below := Fitting.sum_le others
    have spread : blockSize * (bytes :: rest).length = blockSize + blockSize * rest.length := by
      rw [List.length_cons, Nat.cast_succ, Int.mul_add, Int.mul_one, Int.add_comm]
    rw [List.forall_mem_cons, ← ih others, spread, List.sum_cons]
    constructor
    · intro enough
      constructor <;> omega
    · rintro ⟨rfl, enough⟩
      omega

theorem Fitting.capacity_pos (sized : 1 ≤ blockSize) (inhabited : group ≠ []) :
    0 < blockSize * group.length :=
  Int.mul_pos sized (Int.natCast_pos.mpr (List.length_pos_iff.mpr inhabited))

theorem Fitting.tint_nonneg (h : Fitting blockSize group)
    (capacity : 0 ≤ blockSize * group.length) : 0 ≤ tint blockSize group :=
  Int.ediv_nonneg (Int.mul_nonneg (by decide) h.sum_nonneg) capacity

theorem groupShade_eq_tint (sized : 1 ≤ blockSize) (inhabited : group ≠ [])
    (h : Fitting blockSize group) : groupShade blockSize group = .ok (tint blockSize group) := by
  have capacity := Fitting.capacity_pos sized inhabited
  rw [groupShade, ← List.sum_eq_foldr, shade, quotient, if_neg capacity.ne',
    Int.fdiv_eq_ediv_of_nonneg _ capacity.le]
  exact congrArg Except.ok (max_eq_left (h.tint_nonneg capacity.le))

theorem Fitting.tint_le_palest (h : Fitting blockSize group) (sized : 1 ≤ blockSize)
    (inhabited : group ≠ []) : tint blockSize group ≤ palest :=
  Int.ediv_le_of_le_mul (Fitting.capacity_pos sized inhabited)
    (Int.mul_le_mul_of_nonneg_left h.sum_le (by decide))

/-- The palest shade is that of groups without a used byte. -/
theorem Fitting.tint_eq_palest_iff (h : Fitting blockSize group) (sized : 1 ≤ blockSize)
    (inhabited : group ≠ []) :
    tint blockSize group = palest ↔ ∀ bytes ∈ group, bytes = blockSize := by
  have capacity := Fitting.capacity_pos sized inhabited
  rw [← h.le_sum_iff, ← Int.mul_le_mul_left (show 0 < palest by decide),
    ← Int.le_ediv_iff_mul_le capacity]
  exact ⟨fun same => same.ge, fun reached => le_antisymm (h.tint_le_palest sized inhabited) reached⟩

/-- More free bytes in a block do not make its group less pale. -/
theorem tint_mono (sized : 1 ≤ blockSize) (freed : List.Forall₂ (· ≤ ·) group freer) :
    tint blockSize group ≤ tint blockSize freer := by
  unfold tint
  rw [← freed.length_eq]
  have capacity : 0 ≤ blockSize * group.length :=
    Int.mul_nonneg (Int.le_trans (by decide) sized) (Int.natCast_nonneg _)
  obtain empty | positive := capacity.eq_or_lt
  · rw [← empty, Int.ediv_zero, Int.ediv_zero]
  · exact Int.ediv_le_ediv positive (Int.mul_le_mul_of_nonneg_left freed.sum_le_sum (by decide))

/-- More free bytes make no group less pale. -/
theorem tints_mono (sized : 1 ≤ blockSize) (freed : List.Forall₂ (· ≤ ·) free freer) :
    List.Forall₂ (· ≤ ·) ((groupsOf more free).map (tint blockSize))
      ((groupsOf more freer).map (tint blockSize)) := by
  rw [List.forall₂_map_left_iff, List.forall₂_map_right_iff]
  exact (forall₂_groupsOf freed).imp fun _ _ => tint_mono sized

/-- The shades of a map are the tints of its groups. -/
theorem shades_eq_tints (sized : 1 ≤ blockSize) (positive : 1 ≤ size) (h : Fitting blockSize free) :
    shades free blockSize size = .ok ((groupsOf (size - 1) free).map (tint blockSize)) := by
  rw [shades, if_neg (by omega), if_neg (by omega)]
  have cut := cut_groupsOf (size - 1) free
  exact Monitor.mapM_eq_ok fun group member =>
    groupShade_eq_tint sized (cut.inhabited group member) (cut.fitting h member)

/-! ## Maps -/

/-- What a shade says about its group: it is on the scale, and the palest one means that nothing
is used. -/
structure Shows (blockSize : Int) (group : List Int) (shade : Int) : Prop where
  least : 0 ≤ shade
  most : shade ≤ palest
  palest_iff : shade = palest ↔ ∀ bytes ∈ group, bytes = blockSize

/-- The map of a relation: the size of its groups, the groups, and a shade for each of them. -/
structure Mapped (wanted blockSize : Int) (free : List Int) (size : Nat)
    (groups : List (List Int)) (tints : List Int) : Prop where
  sized : groupSize free.length wanted = .ok size
  cut : Cut size free groups
  shaded : shades free blockSize size = .ok tints
  shows : List.Forall₂ (Shows blockSize) groups tints
  single : (free.length : Int) ≤ wanted → tints.length = free.length
  about : wanted < free.length → wanted ≤ tints.length ∧ tints.length ≤ 2 * wanted - 1

theorem Fitting.shows (h : Fitting blockSize group) (sized : 1 ≤ blockSize)
    (inhabited : group ≠ []) : Shows blockSize group (tint blockSize group) where
  least := h.tint_nonneg (Fitting.capacity_pos sized inhabited).le
  most := h.tint_le_palest sized inhabited
  palest_iff := h.tint_eq_palest_iff sized inhabited

/-- Relations of as many blocks are mapped in groups of one size. -/
theorem exists_mapped {wanted : Int} (any : 1 ≤ wanted) (sized : 1 ≤ blockSize) (blocks : Nat) :
    ∃ size : Nat, ∀ free : List Int, free.length = blocks → Fitting blockSize free →
      Mapped wanted blockSize free size (groupsOf (size - 1) free)
        ((groupsOf (size - 1) free).map (tint blockSize)) := by
  obtain ⟨wanted, rfl⟩ := Int.eq_ofNat_of_zero_le (Int.le_trans (by decide) any)
  have any : 1 ≤ wanted := by omega
  obtain ⟨size, found, positive, rule⟩ := groupSize_spec blocks any
  refine ⟨size, fun free length fitting => ?_⟩
  subst length
  have cut : Cut size free (groupsOf (size - 1) free) := by
    have cut := cut_groupsOf (size - 1) free
    rwa [Nat.sub_add_cancel positive] at cut
  refine ⟨found, cut, shades_eq_tints sized positive fitting, ?_, fun few => ?_, fun crowded => ?_⟩
  · rw [List.forall₂_map_right_iff, List.forall₂_same]
    exact fun group member => (cut.fitting fitting member).shows sized (cut.inhabited _ member)
  · rw [if_pos (by omega)] at rule
    subst rule
    rw [List.length_map, cut.length_of_single]
  · rw [if_neg (by omega)] at rule
    subst rule
    have between := cut.length_of_quotient any (by omega)
    rw [List.length_map]
    omega

end PgVitals.FreeSpace
