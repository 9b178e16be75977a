import PgVitals.Proofs.Session.Perform
/-!
# Stretches of a run

A passage is a part of a run in which a list of events happened, newest first, and which leaves the
files alone. Whatever else a session holds follows from these events: the flags from the signals
among them, the connection from the answers. Only what the run has on the server does not; where
that stays the same, the passage is a stretch.

* `exchangesOf` reads the statements and their answers off some events, and `Session.flagged` the
  flag of the user's wish.
* `Passage` and `Stretch` relate two sessions by the events between them. They compose with
  `Passage.trans` and `Stretch.trans`, and `Quiet` is a stretch without statements.
* `Stretch.note` and `Stretch.answered` are the two ways in which events come about: a note with the
  signals right after it, and a statement with those that arrive while it is under way and those
  that are due afterwards.
* `Session.flagged_append` says that nothing takes the wish to end back, and that only SIGINT makes
  it known.

Events are listed newest first throughout, as the past of a session is; `exchangesOf` and everything
read off it lists oldest first.
-/

namespace PgVitals

/-! ## Reading events -/

namespace Event

/-- The statement of an event, and the answer to it. -/
def exchange? : Event → Option (Statement × Reply)
  | asked statement reply => some (statement, reply)
  | _ => none

/-- Whether the connection was lost over an event. -/
def closes : Event → Bool
  | asked _ reply => reply.closes
  | _ => false

/-- Whether an event is no more than a record: it is no statement, and the flags do not change. -/
def isNote : Event → Bool
  | asked _ _ => false
  | arrived _ => false
  | consumed _ _ => false
  | _ => true

end Event

/-- The flags after some events, newest first, under handlers that stay the same. -/
def Handlers.flagsAfter (h : Handlers) (flags : Flags) : List Event → Flags
  | [] => flags
  | .arrived signal :: earlier => h.deliver (h.flagsAfter flags earlier) signal
  | .consumed signal _ :: earlier => (h.flagsAfter flags earlier).without signal
  | _ :: earlier => h.flagsAfter flags earlier

/-- The statements sent in some events, newest first, and the answers to them, oldest first. -/
def exchangesOf (events : List Event) : List (Statement × Reply) :=
  (events.filterMap Event.exchange?).reverse

/-- The statements sent in a session and the answers to them, oldest first. -/
def Session.exchanges (s : Session) : List (Statement × Reply) := exchangesOf s.past

/-- No statement is among some events. -/
def Silent (events : List Event) : Prop :=
  ∀ event ∈ events, event.statement? = none

/-- Whether the flag that the user wants the end is set, some events after the session `s`. -/
def Session.flagged (s : Session) (events : List Event) : Bool :=
  (s.handlers.flagsAfter s.flags events).shutdown

theorem Handlers.flagsAfter_append (h : Handlers) (flags : Flags) (later earlier : List Event) :
    h.flagsAfter flags (later ++ earlier) = h.flagsAfter (h.flagsAfter flags earlier) later := by
  induction later with
  | nil => rfl
  | cons event later ih =>
    cases event <;> simp only [List.cons_append, flagsAfter, ih]

/-- Nothing takes back the wish to end, and where SIGINT has a handler, only SIGINT makes it
known. -/
theorem Session.flagged_append {s : Session} (handled : s.handlers.interrupt = true)
    (later earlier : List Event) :
    s.flagged (later ++ earlier) = true ↔
      s.flagged earlier = true ∨ Event.arrived .interrupt ∈ later := by
  induction later with
  | nil => simp
  | cons event later ih =>
    unfold flagged at ih ⊢
    cases event with
    | arrived signal =>
      cases signal with
      | interrupt =>
        simp [Handlers.flagsAfter, Handlers.deliver, Handlers.handles, handled, Flags.note]
      | resume =>
        by_cases hr : s.handlers.resume = true <;>
          simpa [Handlers.flagsAfter, Handlers.deliver, Handlers.handles, hr, Flags.note] using ih
      | resize =>
        by_cases hr : s.handlers.resize = true <;>
          simpa [Handlers.flagsAfter, Handlers.deliver, Handlers.handles, hr, Flags.note] using ih
    | _ => simpa [Handlers.flagsAfter] using ih

theorem mem_exchangesOf {events : List Event} {statement : Statement} {reply : Reply} :
    (statement, reply) ∈ exchangesOf events ↔ Event.asked statement reply ∈ events := by
  rw [exchangesOf, List.mem_reverse, List.mem_filterMap]
  constructor
  · rintro ⟨event, he, hx⟩
    cases event with
    | asked st r =>
      cases hx
      exact he
    | _ => cases hx
  · intro he
    exact ⟨_, he, rfl⟩

theorem Silent.append {later earlier : List Event} (hl : Silent later) (he : Silent earlier) :
    Silent (later ++ earlier) := by
  intro event hm
  rcases List.mem_append.mp hm with hm | hm
  · exact hl event hm
  · exact he event hm

theorem Silent.not_asked {events : List Event} (h : Silent events) (statement : Statement)
    (reply : Reply) : Event.asked statement reply ∉ events :=
  fun hm => nomatch h _ hm

/-- Signals are no statements. -/
theorem Silent.arrived (signals : List Signal) : Silent (signals.map Event.arrived).reverse := by
  intro event he
  obtain ⟨signal, -, rfl⟩ := List.mem_map.mp (List.mem_reverse.mp he)
  rfl

theorem exchangesOf_append (later earlier : List Event) :
    exchangesOf (later ++ earlier) = exchangesOf earlier ++ exchangesOf later := by
  simp [exchangesOf]

/-! ## Passages -/

/-- From `s` to `s'` the events `new` happened, newest first, and nothing was asked but statements
of `A`. -/
structure Passage (w : Surroundings) (A : Statement → Prop) (s : Session) (new : List Event)
    (s' : Session) : Prop where
  past : s'.past = new ++ s.past
  asked : ∀ statement reply, Event.asked statement reply ∈ new →
    A statement ∧ ∃ earlier, reply = w.reply earlier statement
  flags : s'.flags = s.handlers.flagsAfter s.flags new
  handlers : s'.handlers = s.handlers
  link : s'.link = if new.any Event.closes then .lost else s.link
  files : s'.files = s.files

namespace Passage

variable {w : Surroundings} {A B : Statement → Prop} {s s' s'' : Session} {new later : List Event}

theorem rest : Passage w A s [] s :=
  ⟨rfl, by simp, rfl, rfl, rfl, rfl⟩

/-- Changing what the run has on the server is no event. -/
theorem held (change : Holdings → Holdings) :
    Passage w A s [] { s with holdings := change s.holdings } :=
  ⟨rfl, by simp, rfl, rfl, rfl, rfl⟩

theorem trans (h₁ : Passage w A s new s') (h₂ : Passage w A s' later s'') :
    Passage w A s (later ++ new) s'' where
  past := by rw [h₂.past, h₁.past, List.append_assoc]
  asked := by
    intro statement reply h
    rcases List.mem_append.mp h with h | h
    · exact h₂.asked statement reply h
    · exact h₁.asked statement reply h
  flags := by rw [h₂.flags, h₁.flags, h₁.handlers, Handlers.flagsAfter_append]
  handlers := h₂.handlers.trans h₁.handlers
  link := by
    rw [h₂.link, h₁.link, List.any_append]
    cases later.any Event.closes <;> simp
  files := h₂.files.trans h₁.files

theorem mono (hAB : ∀ statement, A statement → B statement) (h : Passage w A s new s') :
    Passage w B s new s' :=
  { h with asked := fun statement reply hm =>
      ⟨hAB statement (h.asked statement reply hm).1, (h.asked statement reply hm).2⟩ }

theorem flag (h : Passage w A s new s') : s'.flags.shutdown = s.flagged new := by
  rw [h.flags]
  rfl

/-- Where no answer of the server closes the connection, an open one stays open. -/
theorem up (h : Passage w A s new s') (opened : s.link = .up)
    (keeps : ∀ earlier statement, (w.reply earlier statement).closes = false) : s'.link = .up := by
  have none : new.any Event.closes = false := by
    rw [List.any_eq_false]
    intro event he
    cases event with
    | asked statement reply =>
      obtain ⟨-, earlier, rfl⟩ := h.asked statement reply he
      simp [Event.closes, keeps]
    | _ => simp [Event.closes]
  rw [h.link, none, opened]
  rfl

end Passage

/-! ## Stretches -/

/-- A passage over which the run neither gains nor loses anything that it has to remove from the
server in the end. -/
structure Stretch (w : Surroundings) (A : Statement → Prop) (s : Session) (new : List Event)
    (s' : Session) : Prop extends Passage w A s new s' where
  helper : s'.holdings.helper = s.holdings.helper
  schema : s'.holdings.schema = s.holdings.schema

/-- A stretch without statements. -/
abbrev Quiet (w : Surroundings) (s : Session) (new : List Event) (s' : Session) : Prop :=
  Stretch w (fun _ => False) s new s'

namespace Stretch

variable {w : Surroundings} {A B : Statement → Prop} {s s' s'' : Session} {new later : List Event}

theorem rest : Stretch w A s [] s :=
  ⟨.rest, rfl, rfl⟩

theorem trans (h₁ : Stretch w A s new s') (h₂ : Stretch w A s' later s'') :
    Stretch w A s (later ++ new) s'' :=
  ⟨h₁.toPassage.trans h₂.toPassage, h₂.helper.trans h₁.helper, h₂.schema.trans h₁.schema⟩

theorem mono (hAB : ∀ statement, A statement → B statement) (h : Stretch w A s new s') :
    Stretch w B s new s' :=
  { h with toPassage := h.toPassage.mono hAB }

/-- A stretch without statements is one with whatever statements there may be. -/
theorem widen (h : Quiet w s new s') : Stretch w A s new s' :=
  h.mono fun _ => False.elim

theorem silent (h : Quiet w s new s') : Silent new := by
  intro event he
  cases event with
  | asked statement reply => exact (h.asked statement reply he).1.elim
  | _ => rfl

/-- Signals that arrive are a stretch without statements. -/
theorem receiveAll (signals : List Signal) :
    Quiet w s (signals.map Event.arrived).reverse (s.receiveAll signals) := by
  induction signals generalizing s with
  | nil => exact rest
  | cons signal signals ih =>
    have first : Quiet w s [.arrived signal] (s.receive signal) :=
      ⟨⟨rfl, by simp, rfl, rfl, rfl, rfl⟩, rfl, rfl⟩
    have h := first.trans (ih (s := s.receive signal))
    simpa [Session.receiveAll] using h

/-- A note, and the signals that arrive right after it. -/
theorem note (event : Event) (h : event.isNote = true) :
    ∃ signals : List Signal, Quiet w s
      ((signals.map Event.arrived).reverse ++ [event]) (s.after w event) := by
  have first : Quiet w s [event] { s with past := event :: s.past } := by
    refine ⟨⟨rfl, ?_, ?_, rfl, ?_, rfl⟩, rfl, rfl⟩ <;>
      cases event <;> simp_all [Event.isNote, Handlers.flagsAfter, Event.closes]
  exact ⟨_, first.trans (receiveAll _)⟩

/-- A statement that is answered, and the signals that arrive: those that came while it was under
way, and those that are due afterwards. -/
theorem answered (statement : Statement) :
    ∃ due : List Signal,
      Stretch w (· = statement) s
        ((((w.reply s.past statement).signals ++ due).map Event.arrived).reverse ++
          [.asked statement (w.reply s.past statement)])
        (s.answered w statement) := by
  let reply := w.reply s.past statement
  let sent : Session := { s with past := .asked statement reply :: s.past }
  let due := w.arrivals (sent.receiveAll reply.signals).past
  have h : Quiet w sent ((reply.signals ++ due).map Event.arrived).reverse
      ((sent.receiveAll reply.signals).receiveAll due) := by
    have := receiveAll (w := w) (s := sent) (reply.signals ++ due)
    simpa only [Session.receiveAll, List.foldl_append] using this
  -- The connection is lost last, after the signals have changed the flags.
  have hs : s.answered w statement =
      { (sent.receiveAll reply.signals).receiveAll due with
        link := if reply.closes then .lost
          else ((sent.receiveAll reply.signals).receiveAll due).link } := by
    unfold Session.answered
    split <;> rename_i hc <;> simp [reply, hc, sent, due]
  refine ⟨due, ⟨?_, ?_, ?_, ?_, ?_, ?_⟩, ?_, ?_⟩
  · rw [hs]
    simp [h.past, sent, reply]
  · intro st r hm
    have : st = statement ∧ r = reply := by simpa using hm
    exact ⟨this.1, s.past, by rw [this.2, this.1]⟩
  · rw [hs, Handlers.flagsAfter_append]
    exact h.flags
  · rw [hs]
    exact h.handlers
  · rw [hs]
    have hl := h.link
    simp_all [Event.closes, sent, reply]
  · rw [hs]
    exact h.files
  · rw [hs]
    exact h.helper
  · rw [hs]
    exact h.schema

end Stretch

/-- While a statement is under way only signals arrive. -/
theorem Session.past_answered (w : Surroundings) (s : Session) (statement : Statement) :
    ∃ quiet, (s.answered w statement).past =
        quiet ++ .asked statement (w.reply s.past statement) :: s.past ∧
      Silent quiet := by
  obtain ⟨due, h⟩ := Stretch.answered (w := w) (s := s) statement
  refine ⟨_, ?_, .arrived ((w.reply s.past statement).signals ++ due)⟩
  rw [h.past, List.append_assoc]
  rfl

end PgVitals
