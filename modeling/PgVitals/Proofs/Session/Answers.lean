import PgVitals.Proofs.Session.Asks
/-!
# What a statement brings back

A statement over an open connection brings back the result set of the reply, and fails where the
reply is a refusal. Over a connection that is gone it brings back nothing. Either way the files stay
as they are.

* `Run.answer?` is what is brought back, as a function of the session and the server alone.
  `Run.perform_fetch_answered` and `Run.perform_fetch_unanswered` say that a statement ends
  accordingly.
* `Run.files_fetch`, `Session.files_after` and `Session.files_answered` say that neither a statement
  nor a signal changes a file.

Which failure a statement ends with is left open here. It depends on the kind of the error and on
what became of the connection, and is in the account of `Proofs/Session/Refusals`. Proofs about
dumps need no more than that there was no answer, since then nothing is written.
-/

namespace PgVitals

/-- The result set of a reply, unless it is a refusal. -/
def Reply.set? (r : Reply) : Option ResultSet :=
  match r.outcome with
  | .done => some .empty
  | .result set => some set
  | .refused _ => none

namespace Run

variable {w : Surroundings} {s : Session} {statement : Statement}

/-- The result set that a statement brings back. -/
def answer? (w : Surroundings) (s : Session) (statement : Statement) : Option ResultSet :=
  if s.link = .up then (w.reply s.past statement).set? else none

theorem perform_fetch_answered {set : ResultSet} (h : answer? w s statement = some set) :
    (fetch statement).perform w s = (.ok set, s.answered w statement) := by
  rw [answer?] at h
  split at h
  · rename_i up
    rw [fetch, perform_rescue, perform_send_up up]
    cases outcome : (w.reply s.past statement).outcome with
    | done | result _ =>
      rw [Reply.set?, outcome] at h
      cases h
      rfl
    | refused _ =>
      rw [Reply.set?, outcome] at h
      cases h
  · cases h

theorem perform_fetch_unanswered (h : answer? w s statement = none) :
    ∃ failure s', (fetch statement).perform w s = (.error (.failed failure), s') := by
  have ends := fetched w s statement
  generalize (fetch statement).perform w s = ended at ends ⊢
  obtain ⟨result, s'⟩ := ended
  simp only at ends
  cases ends with
  | unsent | refused => exact ⟨_, _, rfl⟩
  | accepted up set accepts =>
    -- A reply that accepts has a result set.
    rw [answer?, if_pos up, Reply.set?] at h
    rw [Reply.accepts] at accepts
    split at h <;> simp_all

/-- A statement leaves the files alone, however it ends. -/
theorem files_fetch : ((fetch statement).perform w s).2.files = s.files := by
  have asks : Asks (fun _ => True) (fetch statement) := .fetch trivial
  obtain ⟨new, stretch⟩ := asks.stretch w s
  exact stretch.files

end Run

/-- Neither an event nor the signals due after it change the files. -/
theorem Session.files_after (w : Surroundings) (s : Session) (event : Event) :
    (s.after w event).files = s.files :=
  (Stretch.receiveAll (w := w) (s := { s with past := event :: s.past }) _).files

/-- Neither a reply nor the signals that arrive meanwhile change the files. -/
theorem Session.files_answered (w : Surroundings) (s : Session) (statement : Statement) :
    (s.answered w statement).files = s.files := by
  obtain ⟨due, stretch⟩ := Stretch.answered (w := w) (s := s) statement
  exact stretch.files

end PgVitals
