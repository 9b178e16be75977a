import PgVitals.Session.Wait
/-!
# Waiting and cancelling

One wait asks the connection until an answer ends it. The flag of the user's wish is read when the
wait begins and after each answer, so a signal counts with the first answer behind it, also where it
arrives between two answers. The statement is cancelled at the first answer at which this is due and
nowhere else; apart from that, a wait does the same as if nothing had arrived.

* `Wait.Due` says when a cancellation is due: the answer is asked for, it does not finish the
  statement, and the wish to end is known by then. `Wait.cancelledAt_wait` says that the statement
  is cancelled at the first such answer, and `Wait.count_cancelled_wait` that it is cancelled once
  at most.
* `Wait.wait_split` cuts a wait at the answer that ends it, and pauses once after each other one.
  `Wait.flags_wait` gives the flags it leaves, and `Wait.ending_refused_iff` tells a wait that is
  refused by its answers.
* `Wait.exists_split` says that there is such an answer in every list of answers that ends one way
  or the other.

The answers of the connection are any list, with any signals in between. A list in which every
answer asks for more time leaves a wait unfinished; so a server that never answers is not excluded,
but nothing is promised of it. How a wait is part of a run is the matter of
`Proofs/Session/InFlight`.
-/

namespace PgVitals.Wait

variable {mayCancel : Bool} {flags : Flags} {poll : Poll} {polls : List Poll} {i : Nat}

/-! ## Answers -/

/-- What is done after an answer that asks for more time. -/
def Standing.pause? : Standing → Option Action
  | .wantsRead => some .waitedForRead
  | .wantsWrite => some .waitedForWrite
  | .finished => none
  | .unknown _ => none

/-- How an answer ends the wait; one that asks for more time does not. -/
def Standing.ending? : Standing → Option Ending
  | .wantsRead => none
  | .wantsWrite => none
  | .finished => some .finished
  | .unknown state => some (.refused (unknownState state))

/-- The flags after some answers and all signals that arrived meanwhile. -/
def flagsAfter (flags : Flags) (polls : List Poll) : Flags :=
  (polls.flatMap Poll.signals).foldl Flags.note flags

theorem flagsAfter_cons :
    flagsAfter flags (poll :: polls) = flagsAfter (flagsAfter flags [poll]) polls := by
  simp [flagsAfter]

/-- Whether the statement is cancelled at an answer. -/
def cancels (mayCancel : Bool) (flags : Flags) (poll : Poll) : Bool :=
  mayCancel && (flagsAfter flags [poll]).shutdown && decide (poll.standing ≠ .finished)

/-- What is done at one answer. -/
def turn (cancelled : Bool) (poll : Poll) : List Action :=
  .polled :: ((if cancelled then [.cancelled] else []) ++ poll.standing.pause?.toList)

theorem wait_cons_of_ending {ending : Ending} (h : poll.standing.ending? = some ending) :
    wait mayCancel flags (poll :: polls) =
      ⟨turn (cancels mayCancel flags poll) poll, ending, flagsAfter flags [poll]⟩ := by
  rcases poll with ⟨standing, signals⟩
  cases standing with
  | wantsRead | wantsWrite => cases h
  | finished =>
    cases h
    simp [wait, turn, cancels, flagsAfter, Standing.pause?]
  | unknown state =>
    cases h
    by_cases c : (mayCancel && (signals.foldl Flags.note flags).shutdown) = true <;>
      simp [wait, turn, cancels, flagsAfter, Standing.pause?, c]

theorem wait_cons_of_pause (h : poll.standing.ending? = none) :
    wait mayCancel flags (poll :: polls) =
      (wait (mayCancel && !cancels mayCancel flags poll) (flagsAfter flags [poll]) polls).after
        (turn (cancels mayCancel flags poll) poll) := by
  rcases poll with ⟨standing, signals⟩
  cases standing with
  | finished | unknown => cases h
  | wantsRead | wantsWrite =>
    by_cases c : (mayCancel && (signals.foldl Flags.note flags).shutdown) = true <;>
      simp [wait, turn, cancels, flagsAfter, Standing.pause?, c]

/-! ## Cancelling -/

/-- The statement is cancelled right after the answer at place `i`. -/
def CancelledAt (actions : List Action) (i : Nat) : Prop :=
  ∃ before after, actions = before ++ .polled :: .cancelled :: after ∧ before.count .polled = i

/-- The answer at place `i` is asked for, it does not finish the statement, and the wish to end is
known by then. -/
structure Due (flags : Flags) (polls : List Poll) (i : Nat) : Prop where
  reached : ∀ poll ∈ polls.take i, poll.standing.ending? = none
  unfinished : ∃ poll, polls[i]? = some poll ∧ poll.standing ≠ .finished
  wanted : (flagsAfter flags (polls.take (i + 1))).shutdown = true

/-- `i` is the first place with a property. -/
def First (p : Nat → Prop) (i : Nat) : Prop := p i ∧ ∀ j < i, ¬ p j

theorem first_zero {p : Nat → Prop} : First p 0 ↔ p 0 :=
  ⟨And.left, fun here => ⟨here, nofun⟩⟩

theorem first_succ {p : Nat → Prop} : First p (i + 1) ↔ ¬ p 0 ∧ First (fun j => p (j + 1)) i := by
  constructor
  · rintro ⟨here, before⟩
    exact ⟨before 0 (Nat.succ_pos i), here, fun j less => before (j + 1) (Nat.succ_lt_succ less)⟩
  · rintro ⟨start, here, before⟩
    refine ⟨here, fun j less => ?_⟩
    cases j with
    | zero => exact start
    | succ j => exact before j (Nat.lt_of_succ_lt_succ less)

/-- Where a property holds somewhere there is a first place. -/
theorem exists_first {p : Nat → Prop} : (∃ i, First p i) ↔ ∃ i, p i := by
  constructor
  · exact fun ⟨i, here, _⟩ => ⟨i, here⟩
  · rintro ⟨i, here⟩
    induction i using Nat.strongRecOn with
    | ind i ih =>
      by_cases earlier : ∃ j < i, p j
      · obtain ⟨j, less, there⟩ := earlier
        exact ih j less there
      · exact ⟨i, here, fun j less there => earlier ⟨j, less, there⟩⟩

theorem due_zero :
    Due flags (poll :: polls) 0 ↔
      (flagsAfter flags [poll]).shutdown = true ∧ poll.standing ≠ .finished := by
  constructor
  · rintro ⟨-, ⟨_, here, unfinished⟩, wanted⟩
    cases here
    exact ⟨wanted, unfinished⟩
  · rintro ⟨wanted, unfinished⟩
    exact ⟨nofun, ⟨poll, rfl, unfinished⟩, wanted⟩

theorem due_succ :
    Due flags (poll :: polls) (i + 1) ↔
      poll.standing.ending? = none ∧ Due (flagsAfter flags [poll]) polls i := by
  constructor
  · rintro ⟨reached, unfinished, wanted⟩
    rw [List.take_succ_cons, List.forall_mem_cons] at reached
    rw [List.take_succ_cons, flagsAfter_cons] at wanted
    exact ⟨reached.1, reached.2, unfinished, wanted⟩
  · rintro ⟨goesOn, reached, unfinished, wanted⟩
    refine ⟨?_, unfinished, ?_⟩
    · rw [List.take_succ_cons, List.forall_mem_cons]
      exact ⟨goesOn, reached⟩
    · rw [List.take_succ_cons, flagsAfter_cons]
      exact wanted

theorem cancelledAt_cons_of_ne {action : Action} {actions : List Action} (h : action ≠ .polled) :
    CancelledAt (action :: actions) i ↔ CancelledAt actions i := by
  constructor
  · rintro ⟨before, after, split, count⟩
    cases before with
    | nil => exact absurd (List.cons.inj split).1 h
    | cons first before =>
      obtain ⟨rfl, rest⟩ := List.cons.inj split
      exact ⟨before, after, rest, by rwa [List.count_cons_of_ne h] at count⟩
  · rintro ⟨before, after, rfl, count⟩
    exact ⟨action :: before, after, rfl, by rwa [List.count_cons_of_ne h]⟩

theorem cancelledAt_polled_zero {actions : List Action} :
    CancelledAt (.polled :: actions) 0 ↔ actions.head? = some .cancelled := by
  constructor
  · rintro ⟨before, after, split, count⟩
    cases before with
    | nil =>
      cases split
      rfl
    | cons first before =>
      obtain ⟨rfl, -⟩ := List.cons.inj split
      simp at count
  · intro cancelled
    obtain ⟨after, rfl⟩ := List.head?_eq_some_iff.mp cancelled
    exact ⟨[], after, rfl, rfl⟩

theorem cancelledAt_polled_succ {actions : List Action} :
    CancelledAt (.polled :: actions) (i + 1) ↔ CancelledAt actions i := by
  constructor
  · rintro ⟨before, after, split, count⟩
    cases before with
    | nil => cases count
    | cons first before =>
      obtain ⟨rfl, rest⟩ := List.cons.inj split
      exact ⟨before, after, rest, by simpa using count⟩
  · rintro ⟨before, after, rfl, count⟩
    exact ⟨.polled :: before, after, rfl, by simpa using count⟩

theorem cancelledAt_append {middle rest : List Action} (h : .polled ∉ middle) :
    CancelledAt (middle ++ rest) i ↔ CancelledAt rest i := by
  induction middle with
  | nil => exact Iff.rfl
  | cons action middle ih =>
    rw [List.cons_append, cancelledAt_cons_of_ne (List.ne_of_not_mem_cons h).symm,
      ih (List.not_mem_of_not_mem_cons h)]

theorem polled_not_mem_turn_tail (cancelled : Bool) (standing : Standing) :
    .polled ∉ (if cancelled then [Action.cancelled] else []) ++ standing.pause?.toList := by
  cases cancelled <;> cases standing <;> simp [Standing.pause?]

theorem cancelledAt_turn_succ {cancelled : Bool} {rest : List Action} :
    CancelledAt (turn cancelled poll ++ rest) (i + 1) ↔ CancelledAt rest i := by
  rw [turn, List.cons_append, cancelledAt_polled_succ,
    cancelledAt_append (polled_not_mem_turn_tail cancelled poll.standing)]

theorem cancelledAt_turn_zero {cancelled : Bool} {rest : List Action}
    (h : poll.standing.ending? = none ∨ rest = []) :
    CancelledAt (turn cancelled poll ++ rest) 0 ↔ cancelled = true := by
  rw [turn, List.cons_append, cancelledAt_polled_zero]
  cases cancelled with
  | true => simp
  | false =>
    rcases h with goesOn | rfl
    · cases standing : poll.standing <;>
        simp_all [Standing.pause?, Standing.ending?]
    · cases poll.standing <;> simp [Standing.pause?]

theorem cancels_iff_due (polls : List Poll) :
    cancels mayCancel flags poll = true ↔ mayCancel = true ∧ Due flags (poll :: polls) 0 := by
  rw [due_zero, cancels]
  simp [and_assoc]

/-- Where cancelling is possible, the statement is cancelled at the first answer at which that is
due, and at no other. -/
theorem cancelledAt_wait :
    CancelledAt (wait mayCancel flags polls).actions i ↔
      mayCancel = true ∧ First (Due flags polls) i := by
  induction polls generalizing mayCancel flags i with
  | nil =>
    constructor
    · rintro ⟨before, after, split, -⟩
      cases before <;> cases split
    · rintro ⟨-, ⟨-, ⟨_, none, -⟩, -⟩, -⟩
      cases none
  | cons poll polls ih =>
    cases h : poll.standing.ending? with
    | some ending =>
      rw [wait_cons_of_ending h, ← List.append_nil (turn _ _)]
      cases i with
      | zero => rw [cancelledAt_turn_zero (.inr rfl), cancels_iff_due, first_zero]
      | succ i =>
        rw [cancelledAt_turn_succ, first_succ]
        constructor
        · rintro ⟨before, after, split, -⟩
          cases before <;> cases split
        · rintro ⟨-, -, later, -⟩
          rw [due_succ, h] at later
          cases later.1
    | none =>
      rw [wait_cons_of_pause h]
      show CancelledAt (turn _ _ ++ _) i ↔ _
      cases i with
      | zero => rw [cancelledAt_turn_zero (.inl h), cancels_iff_due, first_zero]
      | succ i =>
        -- Cancelling stays possible exactly where it was and was not due at once.
        have unspent : (mayCancel && !cancels mayCancel flags poll) = true ↔
            mayCancel = true ∧ ¬ Due flags (poll :: polls) 0 := by
          rw [Bool.and_eq_true, Bool.not_eq_true', ← Bool.not_eq_true,
            cancels_iff_due polls]
          exact and_congr_right fun possible => by simp [possible]
        rw [cancelledAt_turn_succ, ih, first_succ, unspent, and_assoc]
        simp only [First, due_succ, h, true_and]

theorem count_cancelled_turn (cancelled : Bool) :
    (turn cancelled poll).count .cancelled = cancelled.toNat := by
  cases cancelled <;> cases h : poll.standing <;> simp [turn, h, Standing.pause?]

/-- A statement is cancelled at most once. -/
theorem count_cancelled_wait :
    (wait mayCancel flags polls).actions.count .cancelled ≤ mayCancel.toNat := by
  induction polls generalizing mayCancel flags with
  | nil => exact Nat.zero_le _
  | cons poll polls ih =>
    have possible : (cancels mayCancel flags poll).toNat +
        (mayCancel && !cancels mayCancel flags poll).toNat = mayCancel.toNat := by
      unfold cancels
      cases mayCancel <;> cases (flagsAfter flags [poll]).shutdown <;>
        cases decide (poll.standing ≠ .finished) <;> rfl
    cases h : poll.standing.ending? with
    | some ending =>
      rw [wait_cons_of_ending h, count_cancelled_turn]
      omega
    | none =>
      rw [wait_cons_of_pause h]
      show (turn _ _ ++ _).count .cancelled ≤ _
      rw [List.count_append, count_cancelled_turn]
      have rest := @ih (mayCancel && !cancels mayCancel flags poll) (flagsAfter flags [poll])
      omega

/-- Cancelling comes right after an answer. -/
theorem cancelled_mem_wait :
    .cancelled ∈ (wait mayCancel flags polls).actions ↔
      ∃ i, CancelledAt (wait mayCancel flags polls).actions i := by
  constructor
  · induction polls generalizing mayCancel flags with
    | nil => exact nofun
    | cons poll polls ih =>
      have atOnce : ∀ {cancelled : Bool}, .cancelled ∈ turn cancelled poll → cancelled = true := by
        intro cancelled member
        rw [← List.count_pos_iff, count_cancelled_turn] at member
        cases cancelled <;> simp_all
      cases h : poll.standing.ending? with
      | some ending =>
        rw [wait_cons_of_ending h]
        intro member
        exact ⟨0, List.append_nil (turn _ _) ▸
          (cancelledAt_turn_zero (.inr rfl)).mpr (atOnce member)⟩
      | none =>
        rw [wait_cons_of_pause h]
        intro member
        rcases List.mem_append.mp member with now | later
        · exact ⟨0, (cancelledAt_turn_zero (.inl h)).mpr (atOnce now)⟩
        · obtain ⟨i, cancelled⟩ := ih later
          exact ⟨i + 1, cancelledAt_turn_succ.mpr cancelled⟩
  · rintro ⟨i, before, after, split, -⟩
    rw [split]
    simp

/-! ## Endings -/

/-- A wait asks for answers up to the first that ends it, and pauses once after each other one. -/
theorem wait_split {waiting rest : List Poll} {last : Poll} {ending : Ending}
    (goesOn : ∀ poll ∈ waiting, poll.standing.ending? = none)
    (ends : last.standing.ending? = some ending) :
    (wait mayCancel flags (waiting ++ last :: rest)).ending = ending ∧
      (wait mayCancel flags (waiting ++ last :: rest)).actions.filter (· != .cancelled) =
        (waiting.flatMap fun poll => .polled :: poll.standing.pause?.toList) ++ [.polled] := by
  have kept : ∀ cancelled poll, (turn cancelled poll).filter (· != .cancelled) =
      .polled :: poll.standing.pause?.toList := by
    intro cancelled poll
    cases cancelled <;> cases h : poll.standing <;> simp [turn, h, Standing.pause?]
  induction waiting generalizing mayCancel flags with
  | nil =>
    rw [List.nil_append, wait_cons_of_ending ends]
    refine ⟨rfl, ?_⟩
    have still : last.standing.pause? = none := by
      cases h : last.standing <;> simp_all [Standing.pause?, Standing.ending?]
    rw [kept, still]
    rfl
  | cons poll waiting ih =>
    rw [List.forall_mem_cons] at goesOn
    rw [List.cons_append, wait_cons_of_pause goesOn.1]
    obtain ⟨ending, actions⟩ := @ih (mayCancel && !cancels mayCancel flags poll)
      (flagsAfter flags [poll]) goesOn.2
    refine ⟨ending, ?_⟩
    show (turn _ _ ++ _).filter _ = _
    rw [List.filter_append, kept, actions, List.flatMap_cons, List.append_assoc]

/-- The flags after a wait are those after all answers it asks for. -/
theorem flags_wait {waiting rest : List Poll} {last : Poll} {ending : Ending}
    (goesOn : ∀ poll ∈ waiting, poll.standing.ending? = none)
    (ends : last.standing.ending? = some ending) :
    (wait mayCancel flags (waiting ++ last :: rest)).flags =
      flagsAfter flags (waiting ++ [last]) := by
  induction waiting generalizing mayCancel flags with
  | nil => rw [List.nil_append, wait_cons_of_ending ends, List.nil_append]
  | cons poll waiting ih =>
    rw [List.forall_mem_cons] at goesOn
    rw [List.cons_append, wait_cons_of_pause goesOn.1]
    exact (ih goesOn.2).trans flagsAfter_cons.symm

/-- An answer without meaning comes before the first that finishes the statement. -/
def Misanswered (polls : List Poll) : Prop :=
  ∃ before poll after state, polls = before ++ poll :: after ∧ poll.standing = .unknown state ∧
    ∀ earlier ∈ before, earlier.standing ≠ .finished

theorem misanswered_cons :
    Misanswered (poll :: polls) ↔
      (∃ state, poll.standing = .unknown state) ∨
        poll.standing ≠ .finished ∧ Misanswered polls := by
  constructor
  · rintro ⟨before, strange, after, state, split, unknown, unfinished⟩
    cases before with
    | nil =>
      cases split
      exact .inl ⟨state, unknown⟩
    | cons first before =>
      cases split
      rw [List.forall_mem_cons] at unfinished
      exact .inr ⟨unfinished.1, before, strange, after, state, rfl, unknown, unfinished.2⟩
  · rintro (⟨state, unknown⟩ | ⟨unfinished, before, strange, after, state, rfl, unknown, others⟩)
    · exact ⟨[], poll, polls, state, rfl, unknown, nofun⟩
    · exact ⟨poll :: before, strange, after, state, rfl, unknown,
        List.forall_mem_cons.mpr ⟨unfinished, others⟩⟩

/-- A wait is refused exactly where an answer without meaning comes first. -/
theorem ending_refused_iff :
    (∃ error, (wait mayCancel flags polls).ending = .refused error) ↔ Misanswered polls := by
  induction polls generalizing mayCancel flags with
  | nil =>
    constructor
    · rintro ⟨_, pending⟩
      cases pending
    · rintro ⟨before, _, _, _, split, -⟩
      cases before <;> cases split
  | cons poll polls ih =>
    rw [misanswered_cons]
    cases standing : poll.standing with
    | finished =>
      rw [wait_cons_of_ending (by rw [standing]; rfl)]
      simp
    | unknown state =>
      rw [wait_cons_of_ending (by rw [standing]; rfl)]
      simp
    | wantsRead | wantsWrite =>
      rw [wait_cons_of_pause (by rw [standing]; rfl)]
      exact ih.trans (by simp)

/-! ## Whole waits -/

/-- The answers that a wait asks for: the first that ends it, and those before. -/
theorem exists_split (decided : ∃ poll ∈ polls, poll.standing.ending?.isSome) :
    ∃ waiting last rest ending, polls = waiting ++ last :: rest ∧
      (∀ poll ∈ waiting, poll.standing.ending? = none) ∧ last.standing.ending? = some ending := by
  obtain ⟨last, found⟩ := Option.isSome_iff_exists.mp (List.find?_isSome.mpr decided)
  obtain ⟨ends, waiting, rest, split, before⟩ := List.find?_eq_some_iff_append.mp found
  obtain ⟨ending, ends⟩ := Option.isSome_iff_exists.mp ends
  refine ⟨waiting, last, rest, ending, split, fun poll member => ?_, ends⟩
  simpa using before poll member

/-- **A wait cancels its statement at most once, and exactly when it has to.** That is at the first
answer which does not finish the statement and by which the wish to end is known, in a wait that
began without it. The wait returns with the answer that finishes the statement and with no other; it
is refused exactly where an answer without meaning comes before that. It asks for no answer behind
the one that ends it, and pauses once after each answer before. -/
theorem start_cancels_once (flags : Flags) (polls : List Poll)
    (decided : ∃ poll ∈ polls,
      poll.standing = .finished ∨ ∃ state, poll.standing = .unknown state) :
    (start flags polls).actions.count .cancelled ≤ 1 ∧
      (.cancelled ∈ (start flags polls).actions ↔
        flags.shutdown = false ∧ ∃ i, Due flags polls i) ∧
      (∀ i, CancelledAt (start flags polls).actions i ↔
        flags.shutdown = false ∧ First (Due flags polls) i) ∧
      ((∃ error, (start flags polls).ending = .refused error) ↔ Misanswered polls) ∧
      ∃ waiting last rest, polls = waiting ++ last :: rest ∧
        (∀ poll ∈ waiting, poll.standing = .wantsRead ∨ poll.standing = .wantsWrite) ∧
        (start flags polls).actions.filter (· != .cancelled) =
          (waiting.flatMap fun poll => .polled :: poll.standing.pause?.toList) ++ [.polled] ∧
        (last.standing = .finished ∧ (start flags polls).ending = .finished ∨
          ∃ state, last.standing = .unknown state ∧
            (start flags polls).ending = .refused (unknownState state)) := by
  have may : (!flags.shutdown) = true ↔ flags.shutdown = false := by simp
  have ends : ∃ poll ∈ polls, poll.standing.ending?.isSome := by
    obtain ⟨poll, member, standing | ⟨state, standing⟩⟩ := decided <;>
      exact ⟨poll, member, by rw [standing]; rfl⟩
  refine ⟨Nat.le_trans count_cancelled_wait (Bool.toNat_le _), ?_, ?_, ending_refused_iff, ?_⟩
  · rw [start, cancelled_mem_wait, ← may]
    simp only [cancelledAt_wait, exists_and_left]
    exact and_congr_right fun _ => exists_first
  · intro i
    rw [start, cancelledAt_wait, may]
  · obtain ⟨waiting, last, rest, ending, rfl, goesOn, stops⟩ := exists_split ends
    obtain ⟨ended, actions⟩ :=
      @wait_split (!flags.shutdown) flags waiting rest last ending goesOn stops
    refine ⟨waiting, last, rest, rfl, fun poll member => ?_, actions, ?_⟩
    · have := goesOn poll member
      cases h : poll.standing <;> simp_all [Standing.ending?]
    · rw [start, ended]
      cases h : last.standing with
      | wantsRead | wantsWrite => rw [h] at stops; cases stops
      | finished =>
        rw [h] at stops
        cases stops
        exact .inl ⟨rfl, rfl⟩
      | unknown state =>
        rw [h] at stops
        cases stops
        exact .inr ⟨state, rfl, rfl⟩

/-- A statement in flight when SIGINT arrives, twice, before the server has finished it. -/
def interruptedInFlight : List Poll :=
  [⟨.wantsWrite, []⟩, ⟨.wantsRead, [.interrupt]⟩, ⟨.wantsRead, [.interrupt]⟩, ⟨.finished, []⟩]

theorem start_cancels_once_interrupted :
    (∃ poll ∈ interruptedInFlight,
      poll.standing = .finished ∨ ∃ state, poll.standing = .unknown state) ∧
      CancelledAt (start {} interruptedInFlight).actions 1 ∧
      ¬ CancelledAt (start {} interruptedInFlight).actions 2 ∧
      .cancelled ∉ (start { shutdown := true } interruptedInFlight).actions := by
  have decided : ∃ poll ∈ interruptedInFlight,
      poll.standing = .finished ∨ ∃ state, poll.standing = .unknown state :=
    ⟨⟨.finished, []⟩, by simp [interruptedInFlight], .inl rfl⟩
  obtain ⟨-, -, cancelledAt, -⟩ := start_cancels_once {} interruptedInFlight decided
  obtain ⟨-, cancelled, -⟩ := start_cancels_once { shutdown := true } interruptedInFlight decided
  have due : Due {} interruptedInFlight 1 := ⟨by decide, ⟨_, rfl, by decide⟩, by decide⟩
  have undue : ¬ Due {} interruptedInFlight 0 := fun due => absurd due.wanted (by decide)
  refine ⟨decided, (cancelledAt 1).mpr ⟨rfl, due, ?_⟩, ?_, ?_⟩
  · intro j less
    obtain rfl : j = 0 := by omega
    exact undue
  · exact fun second => ((cancelledAt 2).mp second).2.2 1 (by decide) due
  · exact fun spared => nomatch (cancelled.mp spared).1

end PgVitals.Wait
