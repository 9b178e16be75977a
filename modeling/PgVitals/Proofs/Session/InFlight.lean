import PgVitals.Proofs.Session.Cancelling
import PgVitals.Proofs.Session.Following
import PgVitals.Proofs.Session.Waiting
/-!
# Statements in flight

A run waits for each of its statements with the callback of `Wait.start`, which asks the connection
how the statement stands and cancels it when the wish to end is new. The surroundings of a run, on
the other hand, answer a statement all at once. Here the two are one: a `Flight` says how the
connection answers while a statement is under way, with which signals in between, and
`Flight.surroundings` are the surroundings in which the callback has made of that what it makes.

* `Flight.perform_send`: in these surroundings sending a statement ends as the callback does, begun
  with the flags of the run at that moment, and leaves the flag of the user's wish as the callback
  leaves it.
* `Flight.cancelling`: these surroundings cancel as `Cancelling` has it. A statement is refused
  exactly when SIGINT arrives while it is under way and the flag was not set when it started.

Two things are taken as they come. Of a statement that was cancelled the server reports the
cancellation, also where it might have come too late. And SIGINT counts as arriving while a
statement is under way up to the last answer that asks for more time: what arrives with the answer
that ends the wait finds the statement finished, and so it arrives right behind it.
-/

namespace PgVitals

open PgVitals.Wait

/-- Whether an event is the arrival of a signal. -/
def Event.isArrival : Event → Bool
  | arrived _ => true
  | _ => false

/-- What is handed to the sender of a statement. -/
def Outcome.returned : Outcome → Except Stop ResultSet
  | done => .ok .empty
  | result set => .ok set
  | refused error => .error (.failed (.driver error))

/-- What goes on while the statements of a run are under way: how the connection answers, with the
signals that arrive meanwhile, and what the server makes of a statement that is not cancelled. -/
structure Flight where
  polls : List Event → Statement → List Poll
  served : List Event → Statement → Outcome
  /-- The driver's error for a statement that was cancelled. -/
  cancellation : DriverError

namespace Flight

/-- The answers that ask for more time, up to the first that ends the wait. -/
def waiting (polls : List Poll) : List Poll :=
  polls.takeWhile fun poll => poll.standing.ending?.isNone

/-- The signals that arrive with the answer that ends the wait. -/
def lastSignals (polls : List Poll) : List Signal :=
  ((polls.find? fun poll => poll.standing.ending?.isSome).map Poll.signals).getD []

/-- What comes of a statement, once the callback has returned or failed. -/
def outcome (x : Flight) (course : Course) (served : Outcome) : Outcome :=
  match course.ending with
  | .refused error => .refused error
  | .finished | .pending => if .cancelled ∈ course.actions then .refused x.cancellation else served

/-- The flags of a run from `s` when `past` has happened. -/
def flagsAt (s : Session) (past : List Event) : Flags :=
  s.handlers.flagsAfter s.flags (past.take (past.length - s.past.length))

/-- The surroundings of a run from `s` whose statements are in this flight. In all else they are
like others. -/
def surroundings (x : Flight) (s : Session) (others : Surroundings) : Surroundings :=
  { others with
    reply := fun past statement =>
      { signals := (waiting (x.polls past statement)).flatMap Poll.signals
        outcome := x.outcome (start (flagsAt s past) (x.polls past statement))
          (x.served past statement) }
    arrivals := fun past =>
      match past.dropWhile Event.isArrival with
      | .asked statement _ :: earlier => lastSignals (x.polls earlier statement)
      | _ => others.arrivals past }

variable {x : Flight} {s s' : Session} {others : Surroundings} {flags : Flags} {new : List Event}
  {statement : Statement} {before rest polls : List Poll} {last : Poll} {ending : Ending}

theorem flagsAt_append (new : List Event) :
    flagsAt s (new ++ s.past) = s.handlers.flagsAfter s.flags new := by
  simp [flagsAt]

/-! ## Waits that end -/

theorem waiting_eq (goesOn : ∀ poll ∈ before, poll.standing.ending? = none)
    (ends : last.standing.ending? = some ending) : waiting (before ++ last :: rest) = before := by
  rw [waiting, List.takeWhile_append_of_pos fun poll member => by simp [goesOn poll member],
    List.takeWhile_cons, if_neg (by simp [ends]), List.append_nil]

theorem lastSignals_eq (goesOn : ∀ poll ∈ before, poll.standing.ending? = none)
    (ends : last.standing.ending? = some ending) :
    lastSignals (before ++ last :: rest) = last.signals := by
  have passed : before.find? (fun poll => poll.standing.ending?.isSome) = none :=
    List.find?_eq_none.mpr fun poll member => by simp [goesOn poll member]
  rw [lastSignals, List.find?_append, passed, Option.none_or, List.find?_cons, ends]
  rfl

/-- The wish to end is known after some answers where it was before, or SIGINT arrived meanwhile. -/
theorem shutdown_flagsAfter :
    (flagsAfter flags polls).shutdown = true ↔
      flags.shutdown = true ∨ .interrupt ∈ polls.flatMap Poll.signals := by
  unfold flagsAfter
  induction polls.flatMap Poll.signals generalizing flags with
  | nil => simp
  | cons signal signals ih =>
    rw [List.foldl_cons, ih]
    cases signal <;> simp [Flags.note]

/-- A cancellation is due in a wait that finishes exactly when the wish to end is known by the last
answer that asks for more time. -/
theorem exists_due_iff (goesOn : ∀ poll ∈ before, poll.standing.ending? = none)
    (done : last.standing = .finished) :
    (∃ i, Due flags (before ++ last :: rest) i) ↔
      before ≠ [] ∧ (flagsAfter flags before).shutdown = true := by
  induction before generalizing flags with
  | nil =>
    refine iff_of_false ?_ fun some => some.1 rfl
    rintro ⟨i, due⟩
    cases i with
    | zero => exact (due_zero.mp due).2 done
    | succ i =>
      have reached := (due_succ.mp due).1
      rw [done] at reached
      cases reached
  | cons poll before ih =>
    obtain ⟨pauses, others⟩ := List.forall_mem_cons.mp goesOn
    have unfinished : poll.standing ≠ .finished := by
      intro done
      rw [done] at pauses
      cases pauses
    rw [← Nat.or_exists_add_one]
    simp only [List.cons_append, due_zero, due_succ, pauses, true_and, ih others,
      shutdown_flagsAfter, List.flatMap_cons, List.flatMap_nil, List.append_nil, List.mem_append,
      unfinished, ne_eq, not_false_eq_true, and_true, reduceCtorEq]
    constructor
    · rintro ((known | now) | ⟨-, (known | now) | later⟩)
      · exact .inl known
      · exact .inr (.inl now)
      · exact .inl known
      · exact .inr (.inl now)
      · exact .inr (.inr later)
    · rintro (known | now | later)
      · exact .inl (.inl known)
      · exact .inl (.inr now)
      · refine .inr ⟨?_, .inr later⟩
        rintro rfl
        exact absurd later List.not_mem_nil

/-- A wait that finishes has cancelled its statement exactly when SIGINT arrived in time and the
flag was not set at the start. -/
theorem cancelled_iff (goesOn : ∀ poll ∈ before, poll.standing.ending? = none)
    (done : last.standing = .finished) :
    .cancelled ∈ (start flags (before ++ last :: rest)).actions ↔
      flags.shutdown = false ∧ .interrupt ∈ before.flatMap Poll.signals := by
  have may : (!flags.shutdown) = true ↔ flags.shutdown = false := by simp
  rw [start, cancelled_mem_wait]
  simp only [cancelledAt_wait, exists_and_left, exists_first, exists_due_iff goesOn done,
    shutdown_flagsAfter, may]
  refine and_congr_right fun unaware => ?_
  simp only [unaware, Bool.false_eq_true, false_or]
  refine and_iff_right_of_imp fun arrived => ?_
  rintro rfl
  exact absurd arrived List.not_mem_nil

/-! ## Statements that are sent -/

theorem arrived_mem_iff {signal : Signal} {signals : List Signal} :
    Event.arrived signal ∈ (signals.map Event.arrived).reverse ↔ signal ∈ signals := by
  simp

/-- Signals that arrive in a row are passed over on the way back to the statement. -/
theorem dropWhile_arrivals (signals : List Signal) (past : List Event) (reply : Reply) :
    ((signals.map Event.arrived).reverse ++ .asked statement reply :: past).dropWhile
      Event.isArrival = .asked statement reply :: past := by
  rw [List.dropWhile_append_of_pos]
  · rfl
  · intro event member
    obtain ⟨signal, -, rfl⟩ := List.mem_map.mp (List.mem_reverse.mp member)
    rfl

/-- The signals that the callback meets arrive, up to the answer that ends it. -/
theorem follows_answered (others : Surroundings)
    (polled : x.polls s'.past statement = before ++ last :: rest)
    (goesOn : ∀ poll ∈ before, poll.standing.ending? = none)
    (ends : last.standing.ending? = some ending) :
    ∃ reply, Follows s' ((((before ++ [last]).flatMap Poll.signals).map Event.arrived).reverse ++
        [.asked statement reply]) (s'.answered (x.surroundings s others) statement) := by
  let w := x.surroundings s others
  let reply := w.reply s'.past statement
  let asked : Session := { s' with past := .asked statement reply :: s'.past }
  have signals : reply.signals = before.flatMap Poll.signals := by
    show (waiting (x.polls s'.past statement)).flatMap Poll.signals = _
    rw [polled, waiting_eq goesOn ends]
  have met := Follows.receiveAll (s := asked) reply.signals
  have behind : w.arrivals (asked.receiveAll reply.signals).past = last.signals := by
    rw [met.past]
    show (match List.dropWhile Event.isArrival _ with
      | .asked statement _ :: earlier => lastSignals (x.polls earlier statement)
      | _ => others.arrivals _) = _
    rw [dropWhile_arrivals]
    show lastSignals (x.polls s'.past statement) = _
    rw [polled, lastSignals_eq goesOn ends]
  have all : s'.answered w statement =
      asked.receiveAll ((before ++ [last]).flatMap Poll.signals) := by
    show (asked.receiveAll reply.signals).receiveAll (w.arrivals _) = _
    rw [behind, signals, List.flatMap_append, List.flatMap_singleton]
    exact List.foldl_append.symm
  have first : Follows s' [.asked statement reply] asked := ⟨rfl, rfl, rfl⟩
  exact ⟨reply, all ▸ first.trans (Follows.receiveAll _)⟩

/-- **Sending a statement is waiting for it.** In a run that has come from `s` to `s'`, a statement
ends as the callback does that begins with the flags of `s'`, and afterwards the wish to end is
known exactly where the callback knows it. -/
theorem perform_send (x : Flight) (others : Surroundings) (reached : Follows s new s')
    (up : s'.link = .up) (handled : s'.handlers.interrupt = true) (statement : Statement)
    (decided : ∃ poll ∈ x.polls s'.past statement, poll.standing.ending?.isSome) :
    let course := start s'.flags (x.polls s'.past statement)
    ∃ s'', (Run.send statement).perform (x.surroundings s others) s' =
        ((x.outcome course (x.served s'.past statement)).returned, s'') ∧
      s''.flags.shutdown = course.flags.shutdown := by
  intro course
  obtain ⟨before, last, rest, ending, polled, goesOn, ends⟩ := exists_split decided
  obtain ⟨reply, answered⟩ := follows_answered (s := s) others polled goesOn ends
  have known : flagsAt s s'.past = s'.flags := by
    rw [reached.past, flagsAt_append, reached.flags]
  have replied : ((x.surroundings s others).reply s'.past statement).outcome =
      x.outcome course (x.served s'.past statement) := by
    show x.outcome (start (flagsAt s s'.past) _) _ = _
    rw [known]
  refine ⟨s'.answered (x.surroundings s others) statement, ?_, ?_⟩
  · rw [Run.perform_send_up up, replied]
    cases x.outcome course (x.served s'.past statement) <;> rfl
  · have same : course.flags = flagsAfter s'.flags (before ++ [last]) := by
      show (start s'.flags (x.polls s'.past statement)).flags = _
      rw [polled, start, flags_wait goesOn ends]
    rw [answered.flag, same, Bool.eq_iff_iff, Session.flagged_append handled, shutdown_flagsAfter,
      arrived_mem_iff]
    exact Iff.rfl

/-! ## Cancelling -/

/-- Statements that fail only where they are cancelled: the connection comes to an answer that
finishes a statement, and the server accepts what is not cancelled. -/
structure Proper (x : Flight) : Prop where
  finishes : ∀ past statement, ∃ before last rest, x.polls past statement = before ++ last :: rest ∧
    (∀ poll ∈ before, poll.standing.ending? = none) ∧ last.standing = .finished
  accepts : ∀ past statement error, x.served past statement ≠ .refused error
  cancels : x.cancellation.kind = .cancelled

theorem Proper.outcome_eq (proper : x.Proper) (past : List Event) (statement : Statement) :
    x.outcome (start flags (x.polls past statement)) (x.served past statement) =
      if flags.shutdown = false ∧
          .interrupt ∈ (waiting (x.polls past statement)).flatMap Poll.signals
      then .refused x.cancellation else x.served past statement := by
  obtain ⟨before, last, rest, polled, goesOn, done⟩ := proper.finishes past statement
  have ends : last.standing.ending? = some .finished := by rw [done]; rfl
  have ended : (start flags (before ++ last :: rest)).ending = .finished :=
    (wait_split goesOn ends).1
  rw [polled, waiting_eq goesOn ends, outcome, ended]
  simp only [cancelled_iff goesOn done]

/-- **Such surroundings cancel a statement exactly when the callback does.** -/
theorem cancelling (proper : x.Proper) (s : Session) (others : Surroundings) :
    Cancelling (x.surroundings s others) s := by
  have outcome : ∀ new statement,
      ((x.surroundings s others).reply (new ++ s.past) statement).outcome =
        if s.flagged new = false ∧
          .interrupt ∈ ((x.surroundings s others).reply (new ++ s.past) statement).signals
        then .refused x.cancellation else x.served (new ++ s.past) statement := by
    intro new statement
    refine (proper.outcome_eq (new ++ s.past) statement).trans ?_
    rw [flagsAt_append]
    rfl
  refine ⟨fun new statement => ?_, fun new statement error refuses => ?_, fun _ _ => rfl⟩
  · by_cases caught : s.flagged new = false ∧
        .interrupt ∈ ((x.surroundings s others).reply (new ++ s.past) statement).signals
    · rw [Reply.accepts, outcome, if_pos caught]
      exact iff_of_true rfl caught
    · rw [Reply.accepts, outcome, if_neg caught]
      refine iff_of_false ?_ caught
      cases served : x.served (new ++ s.past) statement with
      | refused error => exact absurd served (proper.accepts _ _ _)
      | done | result =>
        intro refused
        cases refused
  · rw [outcome] at refuses
    split at refuses
    · cases refuses
      exact proper.cancels
    · exact absurd refuses (proper.accepts _ _ _)

/-- A flight in which every statement takes one more answer, and SIGINT arrives meanwhile. -/
def interrupted : Flight where
  polls _ _ := [⟨.wantsRead, [.interrupt]⟩, ⟨.finished, []⟩]
  served _ _ := .done
  cancellation := ⟨.cancelled, "canceling statement due to user request", none, some "57014"⟩

theorem interrupted_proper : interrupted.Proper where
  finishes _ _ := ⟨[⟨.wantsRead, [.interrupt]⟩], ⟨.finished, []⟩, [], rfl, by decide, rfl⟩
  accepts _ _ _ refused := by cases refused
  cancels := rfl

/-- The first statement is cancelled, and the next one is left alone. -/
example (others : Surroundings) :
    let first := (Run.send (.plain "SELECT 1")).perform (interrupted.surroundings {} others) {}
    first.1 = .error (.failed (.driver interrupted.cancellation)) ∧
      ((Run.send (.plain "SELECT 1")).perform (interrupted.surroundings {} others) first.2).1 =
        .ok .empty :=
  ⟨rfl, rfl⟩

end Flight

end PgVitals
