import PgVitals.Proofs.Session.Objects
/-!
# Cancelled statements

On a server where no statement fails by itself, the only refusals are those of statements that
SIGINT has cancelled: one that is under way when SIGINT arrives, unless the flag was set already
when it started. The statement that removes an object can be such a statement, and this is the one
way in which the object is left behind.

* `Cancelling` is what the driver makes of SIGINT on such a server: the rule for the answers, stated
  of the events before each of them.
* `CaughtIn` says of some events that the removal of an object was cancelled in them.
* `stands_iff_caught` is what reports and traces use: an object that is removed last of all is there
  in the end exactly when it was created and its removal was cancelled. `caught_iff` brings that
  down to one statement where the object is removed once.

`Cancelling` is an assumption about the surroundings, and no part of a run. That the surroundings in
which every statement is waited for with the callback of the driver satisfy it is proved in
`Proofs/Session/InFlight`. A server that fails statements for reasons of its own is excluded, since
there an object may stay for these reasons.
-/

namespace PgVitals

/-- What the driver makes of SIGINT in a run from the session `s`, on a server where no statement
fails by itself. -/
structure Cancelling (w : Surroundings) (s : Session) : Prop where
  /-- A statement is refused exactly when SIGINT arrives while it is under way and the flag was not
  set when it started. -/
  refuses : ∀ (new : List Event) (statement : Statement),
    (w.reply (new ++ s.past) statement).accepts = false ↔
      s.flagged new = false ∧ Signal.interrupt ∈ (w.reply (new ++ s.past) statement).signals
  /-- What is refused was cancelled. -/
  cancelled : ∀ (new : List Event) (statement : Statement) (error : DriverError),
    (w.reply (new ++ s.past) statement).outcome = .refused error → error.kind = .cancelled
  /-- The connection holds. -/
  keeps : ∀ past statement, (w.reply past statement).closes = false

namespace ServerObject

variable {o : ServerObject} {s : Session} {later earlier : List Event} {reply : Reply}

/-- Whether SIGINT has cancelled the removal of an object: it arrived while the removal was under
way, and the flag was not set when that started. -/
def CaughtIn (o : ServerObject) (s : Session) (events : List Event) : Prop :=
  ∃ later reply earlier, events = later ++ .asked (.plain o.removal) reply :: earlier ∧
    s.flagged earlier = false ∧ Signal.interrupt ∈ reply.signals

theorem Kept.append (hl : o.Kept later) (he : o.Kept earlier) : o.Kept (later ++ earlier) := by
  intro statement reply hm
  rcases List.mem_append.mp hm with hm | hm
  · exact hl statement reply hm
  · exact he statement reply hm

theorem Kept.of_silent (h : Silent later) : o.Kept later :=
  fun statement reply hm => absurd hm (h.not_asked statement reply)

theorem CreatedIn.of_silent (h : Silent later)
    (created : o.CreatedIn (later ++ earlier)) : o.CreatedIn earlier := by
  obtain ⟨statement, reply, hm, made⟩ := created
  rcases List.mem_append.mp hm with hm | hm
  · exact absurd hm (h.not_asked statement reply)
  · exact ⟨statement, reply, hm, made⟩

/-- Where an object is removed once, only that removal can have been cancelled. -/
theorem caught_iff (hl : o.Kept later) (he : o.Kept earlier) :
    o.CaughtIn s (later ++ .asked (.plain o.removal) reply :: earlier) ↔
      s.flagged earlier = false ∧ Signal.interrupt ∈ reply.signals := by
  constructor
  · -- Another removal would be among the events around this one, where there is none.
    rintro ⟨after, answer, before, split, caught⟩
    rcases List.append_eq_append_iff.mp split with ⟨between, ha, hb⟩ | ⟨between, ha, hb⟩
    · cases between with
      | nil =>
        cases hb
        exact caught
      | cons event between =>
        obtain ⟨rfl, rfl⟩ := List.cons.inj hb
        exact absurd rfl (he _ answer (List.mem_append_right _ List.mem_cons_self))
    · cases between with
      | nil =>
        cases hb
        exact caught
      | cons event between =>
        obtain ⟨rfl, -⟩ := List.cons.inj hb
        rw [ha] at hl
        exact absurd rfl (hl _ answer (List.mem_append_right _ List.mem_cons_self))
  · exact fun caught => ⟨later, reply, earlier, rfl, caught⟩

/-- An object that is neither created nor removed in some events is not there after them. -/
theorem stands_iff_caught_of_absent (kept : o.Kept later) (absent : ¬ o.CreatedIn later) :
    o.standsAfter later = true ↔ o.CreatedIn later ∧ o.CaughtIn s later := by
  rw [standsAfter_iff_created kept]
  exact iff_of_false absent fun both => absent both.1

/-- An object that is removed last of all is there in the end exactly when it was created and its
removal was cancelled. -/
theorem stands_iff_caught (distinct : o.creation ≠ o.removal) (hl : o.Kept later)
    (created : ∀ statement reply, Event.asked statement reply ∈ later →
      statement.sql ≠ o.creation) (he : o.Kept earlier)
    (answer : reply.accepts = false ↔
      s.flagged earlier = false ∧ Signal.interrupt ∈ reply.signals) :
    o.standsAfter (later ++ .asked (.plain o.removal) reply :: earlier) = true ↔
      o.CreatedIn (later ++ .asked (.plain o.removal) reply :: earlier) ∧
        o.CaughtIn s (later ++ .asked (.plain o.removal) reply :: earlier) := by
  -- Neither the removal nor anything after it creates the object.
  have earlierOnly : o.CreatedIn (later ++ .asked (.plain o.removal) reply :: earlier) ↔
      o.CreatedIn earlier := by
    constructor
    · rintro ⟨statement, r, hm, hs, accepts⟩
      rcases List.mem_append.mp hm with hm | hm
      · exact absurd hs (created statement r hm)
      · rcases List.mem_cons.mp hm with same | hm
        · cases same
          exact absurd hs.symm distinct
        · exact ⟨statement, r, hm, hs, accepts⟩
    · rintro ⟨statement, r, hm, hs, accepts⟩
      exact ⟨statement, r, List.mem_append_right _ (List.mem_cons_of_mem _ hm), hs, accepts⟩
  rw [standsAfter_append_other fun st r hm => ⟨hl st r hm, created st r hm⟩, caught_iff hl he,
    earlierOnly, ← answer]
  cases accepts : reply.accepts with
  | true =>
    have removes : (Statement.plain o.removal).sql = o.removal := rfl
    rw [standsAfter_removed accepts removes]
    exact iff_of_false nofun fun both => nomatch both.2
  | false =>
    rw [standsAfter_refused accepts, standsAfter_iff_created he]
    exact (and_iff_left rfl).symm

end ServerObject

end PgVitals
