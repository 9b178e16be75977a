import PgVitals.Proofs.Session.Asks
/-!
# What is left on the server

The exchanges of a session tell which objects are on the server: an object is there from the moment
a statement that creates it was accepted, until one that removes it is. Refused statements, and
those about other things, change nothing.

* `ServerObject` is an object, as the statement that creates it and the one that removes it.
  `ServerObject.standsAfter` says whether it is there after some events, when it was not before.
* `ServerObject.standsAfter_iff_created` is the case of a run that removes nothing, and
  `ServerObject.standsAfter_removed` that of a removal that was accepted.
* `Session.standsAfter_answered` and `Stretch.standsAfter_silent` say that signals and notes change
  no object, whenever they come.

The objects are told from the statements of one run, so this is about what the run itself has
created and removed. What several runs do to one object that they share is told from their turns, in
`Proofs/Trace/Sharing` and `Proofs/Report/Exclusion`.
-/

namespace PgVitals

/-- An object on the server, as the statement that creates it and the one that removes it. -/
structure ServerObject where
  creation : String
  removal : String

/-- Whether an object that was not there before some events, newest first, is there after them. -/
def ServerObject.standsAfter (o : ServerObject) : List Event → Bool
  | [] => false
  | .asked statement reply :: earlier =>
    if reply.accepts && statement.sql == o.removal then false
    else if reply.accepts && statement.sql == o.creation then true
    else o.standsAfter earlier
  | _ :: earlier => o.standsAfter earlier

namespace ServerObject

/-- Whether a statement that creates the object was accepted in some events. -/
def CreatedIn (o : ServerObject) (events : List Event) : Prop :=
  ∃ statement reply, Event.asked statement reply ∈ events ∧ statement.sql = o.creation ∧
    reply.accepts = true

/-- Nothing in some events removes the object. -/
def Kept (o : ServerObject) (events : List Event) : Prop :=
  ∀ statement reply, Event.asked statement reply ∈ events → statement.sql ≠ o.removal

variable {o : ServerObject} {later earlier : List Event} {statement : Statement} {reply : Reply}

/-- Events without statements change nothing. -/
theorem standsAfter_append_silent (h : Silent later) :
    o.standsAfter (later ++ earlier) = o.standsAfter earlier := by
  induction later with
  | nil => rfl
  | cons event later ih =>
    have rest := ih fun e he => h e (List.mem_cons_of_mem _ he)
    cases event with
    | asked statement reply => exact absurd (h _ List.mem_cons_self) (by simp [Event.statement?])
    | _ => simpa [standsAfter] using rest

theorem standsAfter_refused (h : reply.accepts = false) :
    o.standsAfter (.asked statement reply :: earlier) = o.standsAfter earlier := by
  simp [standsAfter, h]

theorem standsAfter_removed (h : reply.accepts = true) (hs : statement.sql = o.removal) :
    o.standsAfter (.asked statement reply :: earlier) = false := by
  simp [standsAfter, h, hs]

/-- A statement that neither creates nor removes the object changes nothing. -/
theorem standsAfter_other (hr : statement.sql ≠ o.removal) (hc : statement.sql ≠ o.creation) :
    o.standsAfter (.asked statement reply :: earlier) = o.standsAfter earlier := by
  simp [standsAfter, hr, hc]

/-- Statements about other things change nothing. -/
theorem standsAfter_append_other
    (h : ∀ statement reply, Event.asked statement reply ∈ later →
      statement.sql ≠ o.removal ∧ statement.sql ≠ o.creation) :
    o.standsAfter (later ++ earlier) = o.standsAfter earlier := by
  induction later with
  | nil => rfl
  | cons event later ih =>
    have rest := ih fun st r hm => h st r (List.mem_cons_of_mem _ hm)
    cases event with
    | asked st r =>
      obtain ⟨hr, hc⟩ := h st r List.mem_cons_self
      rw [List.cons_append, standsAfter_other hr hc, rest]
    | _ => simpa [standsAfter] using rest

/-- Where nothing removes the object, it stands exactly when a creation was accepted. -/
theorem standsAfter_iff_created {events : List Event} (h : o.Kept events) :
    o.standsAfter events = true ↔ o.CreatedIn events := by
  unfold CreatedIn
  induction events with
  | nil => simp [standsAfter]
  | cons event events ih =>
    have rest := ih fun st r hm => h st r (List.mem_cons_of_mem _ hm)
    cases event with
    | asked st r =>
      have hne : st.sql ≠ o.removal := h st r List.mem_cons_self
      by_cases hc : r.accepts = true ∧ st.sql = o.creation
      · simp only [standsAfter, hc.1, hc.2, beq_self_eq_true, Bool.and_self, if_true]
        simp only [Bool.true_and, beq_iff_eq]
        rw [if_neg (hc.2 ▸ hne)]
        simp only [true_iff]
        exact ⟨st, r, List.mem_cons_self, hc.2, hc.1⟩
      · have step : o.standsAfter (.asked st r :: events) = o.standsAfter events := by
          simp only [standsAfter, Bool.and_eq_true, beq_iff_eq]
          rw [if_neg fun h' => hne h'.2, if_neg hc]
        rw [step, rest]
        constructor
        · rintro ⟨st', r', hm, hs, ha⟩
          exact ⟨st', r', List.mem_cons_of_mem _ hm, hs, ha⟩
        · rintro ⟨st', r', hm, hs, ha⟩
          rcases List.mem_cons.mp hm with heq | hm
          · cases heq
            exact absurd ⟨ha, hs⟩ hc
          · exact ⟨st', r', hm, hs, ha⟩
    | _ => simpa [standsAfter] using rest

end ServerObject

/-! ## Exchanges -/

section

variable {w : Surroundings} {s s' : Session} {new : List Event}

theorem exchangesOf_silent (h : Silent new) :
    exchangesOf new = [] := by
  have : new.filterMap Event.exchange? = [] := by
    rw [List.filterMap_eq_nil_iff]
    intro event he
    have := h event he
    cases event <;> simp_all [Event.statement?, Event.exchange?]
  rw [exchangesOf, this, List.reverse_nil]

theorem Stretch.exchanges_silent (h : Quiet w s new s') :
    s'.exchanges = s.exchanges := by
  rw [Session.exchanges, h.past, exchangesOf_append, exchangesOf_silent h.silent, List.append_nil]
  rfl

/-- A note adds no exchange, nor do the signals that arrive after it. -/
theorem Session.exchanges_after {event : Event} (note : event.isNote = true) :
    (s.after w event).exchanges = s.exchanges := by
  obtain ⟨signals, quiet⟩ := Stretch.note (w := w) (s := s) event note
  exact quiet.exchanges_silent

theorem Session.exchanges_answered (statement : Statement) :
    (s.answered w statement).exchanges =
      s.exchanges ++ [(statement, w.reply s.past statement)] := by
  obtain ⟨quiet, past, silent⟩ := s.past_answered w statement
  rw [Session.exchanges, past, exchangesOf_append, exchangesOf_silent silent, List.append_nil,
    ← List.singleton_append, exchangesOf_append]
  rfl

/-- A stretch without statements changes no object. -/
theorem Stretch.standsAfter_silent {o : ServerObject} (h : Quiet w s new s') :
    o.standsAfter s'.past = o.standsAfter s.past := by
  rw [h.past]
  exact ServerObject.standsAfter_append_silent h.silent

/-- Signals that arrive while a statement is under way change no object. -/
theorem Session.standsAfter_answered {o : ServerObject} (statement : Statement) :
    o.standsAfter (s.answered w statement).past =
      o.standsAfter (.asked statement (w.reply s.past statement) :: s.past) := by
  obtain ⟨quiet, past, silent⟩ := s.past_answered w statement
  rw [past]
  exact ServerObject.standsAfter_append_silent silent

theorem Session.link_answered (statement : Statement) :
    (s.answered w statement).link =
      if (w.reply s.past statement).closes then .lost else s.link := by
  obtain ⟨due, h⟩ := Stretch.answered (w := w) (s := s) statement
  rw [h.link]
  simp [Event.closes]

/-- A statement leaves the connection open when it was open before and the answer does not close
it. -/
theorem Session.up_answered_iff (statement : Statement) :
    (s.answered w statement).link = .up ↔
      s.link = .up ∧ (w.reply s.past statement).closes = false := by
  rw [Session.link_answered]
  cases (w.reply s.past statement).closes <;> simp

end

end PgVitals
