import PgVitals.Proofs.Sorting
import PgVitals.Trace.Histogram
import Mathlib.Algebra.BigOperators.Group.List.Basic
import Mathlib.Algebra.Order.Ring.Int
import Mathlib.Data.List.Induction
import Mathlib.Data.List.Nodup
import Mathlib.Data.List.Perm.Basic
import Mathlib.Data.Prod.Lex
import Mathlib.Data.String.Basic
/-!
# Histograms of sightings

The helper tells how often it has seen a process wait for each event. A histogram holds one entry
for each event and type it was told of, with what was told last, and shows them in one order only.
So the order in which the helper tells of different events does not matter.

* `Told` is what a row of the helper says, and `LastOf` what was told last of an event.
* `foldl_insert` says that a histogram holds exactly that, once for each event, and `total_entries`
  what it adds up to.
* `Precedes` is the order, falling in occurrences and then by event and type, and
  `precedes_trichotomy` that it is strict and total. `orders` says that the comparison of the
  program answers by it.
* `ordered_entries` says that what is kept is shown in this order, and `eq_of_perm` that there is
  one way to show some sightings.

Texts are ordered by their code points. The comparison of the program can fail on values that cannot
be compared; on what the helper returns it does not, and that is part of `orders`. Sorting itself is
taken from `Proofs/Sorting`, where it is proved for a comparison that may fail.
-/

namespace PgVitals.Trace

/-- What the helper tells of an event: how often it was seen, and in how many percent of cases. -/
structure Sighting where
  event : String
  eventType : String
  occurrences : Int
  percent : Float

namespace Sighting

/-- The event and its type, of which a histogram has one entry. -/
def key (x : Sighting) : String × String := (x.event, x.eventType)

/-- The entry of a sighting. -/
def entry (x : Sighting) : WaitCount :=
  ⟨.text x.event, .text x.eventType, x.occurrences, x.percent⟩

/-- A row tells of a sighting: two texts, a value that gives the occurrences, and one that gives the
percentage, or nothing, which is zero. -/
inductive Told : List Value → Sighting → Prop
  | row {event eventType : String} {count : Int} {share : Float} {occurrences percent : Value}
      (counted : occurrences.toInt = .ok count)
      (measured : (if percent.truthy then percent.toFloat else .ok 0.0) = .ok share) :
      Told [.text event, .text eventType, occurrences, percent] ⟨event, eventType, count, share⟩

/-- Falling occurrences come first, and among equal ones events, and then types, by their code
points. -/
def Precedes (a b : Sighting) : Prop :=
  b.occurrences < a.occurrences ∨ a.occurrences = b.occurrences ∧
    (a.event < b.event ∨ a.event = b.event ∧ a.eventType < b.eventType)

/-- What was told last of an event. -/
def LastOf (told : List Sighting) (x : Sighting) : Prop :=
  ∃ earlier later, told = earlier ++ x :: later ∧ ∀ y ∈ later, y.key ≠ x.key

variable {x y : Sighting} {told kept : List Sighting} {rows : List (List Value)}

theorem entry_inj (h : x.entry = y.entry) : x = y := by
  rcases x with ⟨event, eventType, occurrences, percent⟩
  rcases y with ⟨event', eventType', occurrences', percent'⟩
  simp only [entry, WaitCount.mk.injEq, Value.text.injEq] at h
  obtain ⟨rfl, rfl, rfl, rfl⟩ := h
  rfl

/-! ## Order -/

/-- The place of a sighting in the order of all. -/
def rank (x : Sighting) : Int ×ₗ String ×ₗ String :=
  toLex (-x.occurrences, toLex (x.event, x.eventType))

theorem precedes_iff : Precedes x y ↔ x.rank < y.rank := by
  rw [Precedes, rank, rank, Prod.Lex.toLex_lt_toLex, Prod.Lex.toLex_lt_toLex]
  simp only [Int.neg_lt_neg_iff, Int.neg_inj]

theorem precedes_trichotomy (h : x.key ≠ y.key) : Precedes x y ∨ Precedes y x := by
  rw [precedes_iff, precedes_iff]
  refine lt_or_gt_of_ne fun same => h ?_
  have inner := congrArg (fun r => (ofLex (ofLex r).2)) same
  exact inner

/-- Entries of sightings are compared as their sightings are ordered. -/
theorem before_entry (x y : Sighting) :
    ∃ answer, WaitCount.before x.entry y.entry = .ok answer ∧ (answer = true ↔ Precedes x y) := by
  simp only [WaitCount.before, WaitCount.eventBefore, Precedes, entry, Value.same, Value.before,
    beq_iff_eq, ← String.lt_iff_toList_lt]
  by_cases count : x.occurrences = y.occurrences
  · by_cases event : x.event = y.event
    · by_cases eventType : x.eventType = y.eventType
      · exact ⟨_, (if_pos count).trans ((if_pos event).trans (if_pos eventType)),
          by simp [count, event, eventType]⟩
      · exact ⟨_, (if_pos count).trans ((if_pos event).trans (if_neg eventType)),
          by simp [count, event]⟩
    · exact ⟨_, (if_pos count).trans (if_neg event), by simp [count, event]⟩
  · exact ⟨_, if_neg count, decide_eq_true_iff.trans (by simp [count])⟩

/-- The order of entries is that of their sightings. -/
theorem orders : Orders WaitCount.before (fun w => ∃ x : Sighting, w = x.entry)
    fun v w => ∃ x y : Sighting, v = x.entry ∧ w = y.entry ∧ Precedes x y where
  answers := by
    rintro _ _ ⟨x, rfl⟩ ⟨y, rfl⟩
    obtain ⟨answer, compared, means⟩ := before_entry x y
    refine ⟨answer, compared, means.trans ⟨fun first => ⟨x, y, rfl, rfl, first⟩, ?_⟩⟩
    rintro ⟨_, _, hx, hy, first⟩
    rwa [entry_inj hx, entry_inj hy]
  asymm := by
    rintro _ _ - - ⟨x, y, rfl, rfl, first⟩ ⟨_, _, hy, hx, second⟩
    rw [← entry_inj hx, ← entry_inj hy, precedes_iff] at second
    exact lt_asymm (precedes_iff.mp first) second
  trans := by
    rintro _ _ _ ⟨x, rfl⟩ ⟨y, rfl⟩ ⟨z, rfl⟩ first second ⟨_, _, hz, hx, third⟩
    rw [← entry_inj hx, ← entry_inj hz, precedes_iff] at third
    have behind : ¬ y.rank < x.rank := fun less => first ⟨y, x, rfl, rfl, precedes_iff.mpr less⟩
    have further : ¬ z.rank < y.rank := fun less => second ⟨z, y, rfl, rfl, precedes_iff.mpr less⟩
    exact absurd third (not_lt.mpr ((not_lt.mp behind).trans (not_lt.mp further)))

/-! ## What is kept -/

theorem ofRow_told {row : List Value} (h : Told row x) : WaitCount.ofRow row = .ok x.entry := by
  cases h with
  | @row event eventType count share occurrences percent counted measured =>
    simp only [WaitCount.ofRow, counted, Value.isKey, bind, Except.bind, Bool.and_self, if_true]
    split at measured <;> rename_i counts
    · simp only [counts, if_true, measured]
      rfl
    · have zero : 0.0 = share := Except.ok.inj measured
      simp only [counts, zero]
      rfl

theorem mapM_told (h : List.Forall₂ Told rows told) :
    rows.mapM WaitCount.ofRow = .ok (told.map entry) := by
  induction h with
  | nil => rfl
  | cons first _ ih =>
    rw [List.mapM_cons, ofRow_told first, ih]
    rfl

theorem sameEvent_entry : x.entry.sameEvent y.entry = true ↔ x.key = y.key := by
  simp [WaitCount.sameEvent, entry, Value.same, key]

/-- A new sighting takes the place of the one of its event, or comes last. -/
theorem insert_entry (x : Sighting) (distinct : (kept.map key).Nodup) :
    ∃ more : List Sighting, Histogram.insert x.entry (kept.map entry) = more.map entry ∧
      (more.map key).Nodup ∧ ∀ y, y ∈ more ↔ y = x ∨ y ∈ kept ∧ y.key ≠ x.key := by
  induction kept with
  | nil => exact ⟨[x], rfl, List.pairwise_singleton _ _, by simp⟩
  | cons old kept ih =>
    obtain ⟨fresh, distinct⟩ := List.nodup_cons.mp distinct
    rw [List.map_cons, Histogram.insert]
    by_cases same : old.key = x.key
    · have others : ∀ y ∈ kept, y.key ≠ x.key := fun y member again =>
        fresh (List.mem_map.mpr ⟨y, member, again.trans same.symm⟩)
      refine ⟨x :: kept, ?_, List.nodup_cons.mpr ⟨same ▸ fresh, distinct⟩, fun y => ?_⟩
      · rw [if_pos (sameEvent_entry.mpr same), List.map_cons]
        obtain ⟨event, eventType⟩ := Prod.mk.inj same
        simp only [entry, event, eventType]
      · rw [List.mem_cons, List.mem_cons]
        constructor
        · rintro (rfl | member)
          · exact .inl rfl
          · exact .inr ⟨.inr member, others y member⟩
        · rintro (rfl | ⟨rfl | member, other⟩)
          · exact .inl rfl
          · exact absurd same other
          · exact .inr member
    · obtain ⟨more, inserted, moreDistinct, members⟩ := ih distinct
      refine ⟨old :: more, ?_, List.nodup_cons.mpr ⟨?_, moreDistinct⟩, fun y => ?_⟩
      · rw [if_neg (same ∘ sameEvent_entry.mp), inserted, List.map_cons]
      · intro again
        obtain ⟨y, member, equal⟩ := List.mem_map.mp again
        rcases (members y).mp member with rfl | ⟨member, -⟩
        · exact same equal.symm
        · exact fresh (List.mem_map.mpr ⟨y, member, equal⟩)
      · rw [List.mem_cons, List.mem_cons, members]
        constructor
        · rintro (rfl | rfl | ⟨member, other⟩)
          · exact .inr ⟨.inl rfl, same⟩
          · exact .inl rfl
          · exact .inr ⟨.inr member, other⟩
        · rintro (rfl | ⟨rfl | member, other⟩)
          · exact .inr (.inl rfl)
          · exact .inl rfl
          · exact .inr (.inr ⟨member, other⟩)

theorem lastOf_append_singleton :
    LastOf (told ++ [x]) y ↔ y = x ∨ LastOf told y ∧ y.key ≠ x.key := by
  constructor
  · rintro ⟨earlier, later, split, others⟩
    rcases List.eq_nil_or_concat' later with rfl | ⟨later, last, rfl⟩
    · exact .inl (by simpa using (List.append_inj_right' split rfl).symm)
    · rw [List.forall_mem_append, List.forall_mem_singleton] at others
      have whole : told ++ [x] = (earlier ++ y :: later) ++ [last] := by simpa using split
      obtain ⟨rfl, same⟩ := List.append_inj' whole rfl
      cases same
      exact .inr ⟨⟨earlier, later, rfl, others.1⟩, others.2.symm⟩
  · rintro (rfl | ⟨⟨earlier, later, rfl, others⟩, other⟩)
    · exact ⟨told, [], rfl, nofun⟩
    · refine ⟨earlier, later ++ [x], by simp, ?_⟩
      rw [List.forall_mem_append, List.forall_mem_singleton]
      exact ⟨others, other.symm⟩

/-- A histogram holds what was told last of each event, once. -/
theorem foldl_insert (told : List Sighting) :
    ∃ kept : List Sighting,
      (told.map entry).foldl (fun h w => Histogram.insert w h) [] = kept.map entry ∧
        (kept.map key).Nodup ∧ ∀ x, x ∈ kept ↔ LastOf told x := by
  induction told using List.reverseRecOn with
  | nil => exact ⟨[], rfl, .nil, fun x => ⟨nofun, fun ⟨earlier, _, split, _⟩ => by simp at split⟩⟩
  | append_singleton told x ih =>
    obtain ⟨kept, folded, distinct, members⟩ := ih
    obtain ⟨more, inserted, moreDistinct, moreMembers⟩ := insert_entry x distinct
    refine ⟨more, ?_, moreDistinct, fun y => ?_⟩
    · rw [List.map_append, List.foldl_append, folded]
      exact inserted
    · rw [moreMembers, members, lastOf_append_singleton]

theorem total_entries (kept : List Sighting) :
    Histogram.total (kept.map entry) = (kept.map occurrences).sum := by
  induction kept with
  | nil => rfl
  | cons x kept ih =>
    rw [List.map_cons, List.map_cons, List.sum_cons, ← ih]
    rfl

/-! ## What is shown -/

/-- What is kept is shown in the order of sightings. -/
theorem ordered_entries (distinct : (kept.map key).Nodup) :
    ∃ shown : List Sighting, Histogram.ordered (kept.map entry) = .ok (shown.map entry) ∧
      shown.Perm kept ∧ shown.Pairwise Precedes := by
  have known : ∀ w ∈ kept.map entry, ∃ x : Sighting, w = x.entry := by
    intro w member
    obtain ⟨x, -, rfl⟩ := List.mem_map.mp member
    exact ⟨x, rfl⟩
  obtain ⟨result, sorted, perm, inOrder⟩ := orders.sortBy_spec known
  -- What was sorted are entries of the same sightings.
  have each : List.Forall₂ (fun w x => w = entry x) (kept.map entry) kept := by
    rw [List.forall₂_map_left_iff]
    exact List.forall₂_same.mpr fun _ _ => rfl
  obtain ⟨shown, entries, same⟩ := List.perm_comp_forall₂ perm each
  have result_eq : result = shown.map entry := by
    rwa [← List.forall₂_eq_eq_eq, List.forall₂_map_right_iff]
  subst result_eq
  refine ⟨shown, sorted, same, ?_⟩
  have apart : shown.Pairwise fun x y => x.key ≠ y.key :=
    List.pairwise_map.mp ((same.map key).nodup_iff.mpr distinct)
  refine (apart.and (List.pairwise_map.mp inOrder)).imp fun ⟨differ, notBehind⟩ => ?_
  rcases precedes_trichotomy differ with first | behind
  · exact first
  · exact absurd ⟨_, _, rfl, rfl, behind⟩ notBehind

theorem lastOf_iff_mem (distinct : (told.map key).Nodup) : LastOf told x ↔ x ∈ told := by
  constructor
  · rintro ⟨earlier, later, rfl, -⟩
    simp
  · intro member
    obtain ⟨earlier, later, rfl⟩ := List.append_of_mem member
    refine ⟨earlier, later, rfl, fun y later same => ?_⟩
    rw [List.map_append, List.map_cons] at distinct
    have fresh := (List.nodup_cons.mp (List.nodup_append.mp distinct).2.1).1
    exact fresh (List.mem_map.mpr ⟨y, later, same⟩)

/-- Where all events differ, nothing that was told is lost. -/
theorem perm_told {shown : List Sighting} (differ : (told.map key).Nodup)
    (distinct : (shown.map key).Nodup) (members : ∀ x, x ∈ shown ↔ LastOf told x) :
    shown.Perm told := by
  refine (List.perm_ext_iff_of_nodup (.of_map key distinct) (.of_map key differ)).mpr fun x => ?_
  rw [members, lastOf_iff_mem differ]

/-- A histogram of what was told, and what it shows. -/
theorem ofRows_told (h : List.Forall₂ Told rows told) :
    ∃ (histogram : Histogram) (shown : List Sighting),
      Histogram.ofRows rows = .ok histogram ∧
      Histogram.ordered histogram = .ok (shown.map entry) ∧
      Histogram.total histogram = (shown.map occurrences).sum ∧
      shown.Pairwise Precedes ∧ (shown.map key).Nodup ∧ ∀ x, x ∈ shown ↔ LastOf told x := by
  obtain ⟨kept, folded, distinct, members⟩ := foldl_insert told
  obtain ⟨shown, ordered, perm, precede⟩ := ordered_entries distinct
  refine ⟨kept.map entry, shown, ?_, ordered, ?_, precede, ?_, fun x => ?_⟩
  · rw [Histogram.ofRows, mapM_told h, ← folded]
    rfl
  · rw [total_entries, (perm.map occurrences).sum_eq]
  · exact (perm.map key).nodup_iff.mpr distinct
  · rw [perm.mem_iff, members]

/-- There is one way to show some sightings. -/
theorem eq_of_perm {shown others : List Sighting} (perm : shown.Perm others)
    (h : shown.Pairwise Precedes) (h' : others.Pairwise Precedes) : shown = others := by
  refine perm.eq_of_pairwise (fun x y _ _ first second => ?_) h h'
  exact absurd (precedes_iff.mp second) (lt_asymm (precedes_iff.mp first))

/-- **A histogram shows each event it was told of once, with what was told last of it, in the order
of sightings.** Where all events differ it shows all that was told and adds up all occurrences, and
the order of the rows changes nothing of what it shows. -/
theorem sightings_shown (rows : List (List Value)) (told : List Sighting)
    (h : List.Forall₂ Told rows told) :
    ∃ (histogram : Histogram) (shown : List Sighting),
      Histogram.ofRows rows = .ok histogram ∧
      Histogram.ordered histogram = .ok (shown.map entry) ∧
      Histogram.total histogram = (shown.map occurrences).sum ∧
      shown.Pairwise Precedes ∧ (shown.map key).Nodup ∧ (∀ x, x ∈ shown ↔ LastOf told x) ∧
      ((told.map key).Nodup →
        shown.Perm told ∧ Histogram.total histogram = (told.map occurrences).sum ∧
        ∀ others : List (List Value), others.Perm rows →
          ∃ other : Histogram, Histogram.ofRows others = .ok other ∧
            Histogram.total other = Histogram.total histogram ∧
            Histogram.ordered other = Histogram.ordered histogram ∧
            Histogram.render other = Histogram.render histogram) := by
  obtain ⟨histogram, shown, made, ordered, total, precede, distinct, members⟩ := ofRows_told h
  refine ⟨histogram, shown, made, ordered, total, precede, distinct, members, fun differ => ?_⟩
  have perm := perm_told differ distinct members
  refine ⟨perm, by rw [total, (perm.map occurrences).sum_eq], fun others otherPerm => ?_⟩
  -- The other rows tell of the same sightings in another order, and these are shown the same way.
  obtain ⟨told', h', toldPerm⟩ := List.perm_comp_forall₂ otherPerm h
  have differ' : (told'.map key).Nodup := (toldPerm.map key).nodup_iff.mpr differ
  obtain ⟨other, shown', made', ordered', total', precede', distinct', members'⟩ := ofRows_told h'
  have perm' : shown'.Perm shown :=
    ((perm_told differ' distinct' members').trans toldPerm).trans perm.symm
  obtain rfl := eq_of_perm perm' precede' precede
  have same : Histogram.ordered other = Histogram.ordered histogram := ordered'.trans ordered.symm
  refine ⟨other, made', total'.trans total.symm, same, ?_⟩
  rw [Histogram.render, Histogram.render, same]

/-- Rows of the helper: two events seen equally often, one of them without a percentage. -/
def tiedRows : List (List Value) :=
  [[.text "WALSync", .text "IO", .int 2, .decimal (.finite false 200 (-1))],
    [.text "DataFileRead", .text "IO", .int 2, .null],
    [.text "ClientRead", .text "Client", .int 6, .decimal (.finite false 600 (-1))]]

/-- What they tell of. -/
def tiedSightings : List Sighting :=
  [⟨"WALSync", "IO", 2, Number.floatOfDecimal (.finite false 200 (-1))⟩,
    ⟨"DataFileRead", "IO", 2, 0.0⟩,
    ⟨"ClientRead", "Client", 6, Number.floatOfDecimal (.finite false 600 (-1))⟩]

theorem sightings_shown_tied :
    List.Forall₂ Told tiedRows tiedSightings ∧ (tiedSightings.map key).Nodup ∧
      ∃ histogram, Histogram.ofRows tiedRows = .ok histogram ∧ Histogram.total histogram = 10 ∧
        ∃ other, Histogram.ofRows tiedRows.reverse = .ok other ∧
          Histogram.render other = Histogram.render histogram := by
  have told : List.Forall₂ Told tiedRows tiedSightings :=
    .cons (.row rfl rfl) (.cons (.row rfl rfl) (.cons (.row rfl rfl) .nil))
  have differ : (tiedSightings.map key).Nodup := by decide
  obtain ⟨histogram, shown, made, -, -, -, -, -, distinct⟩ := sightings_shown _ _ told
  obtain ⟨-, total, permuted⟩ := distinct differ
  obtain ⟨other, made', -, -, render⟩ := permuted _ (List.reverse_perm tiedRows)
  exact ⟨told, differ, histogram, made, total, other, made', render⟩

end Sighting

end PgVitals.Trace
