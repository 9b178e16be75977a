import PgVitals.Proofs.Session.Asks
/-!
# What a run does to the past

Whatever a run does, it adds events to the past, and the flags follow from the events. This holds of
runs that write files and lose the connection, too, and it is all that a part of the program has to
know of code that it calls. Laws of a past say at each event what has to be true of the events
before it.

* `Lawful` is a law that holds at each of some events. `Lawful.of_append` and `Lawful.append` cut
  such a past and extend it.
* `Follows` relates the sessions before and after a run by the events between them;
  `Session.flagged_of_append` says that nothing takes back the wish to end.
* `Makes` is a run that makes events of some kinds only, and `Converses` one that does nothing but
  talk to the server. Both are closed under the ways of building runs.

Nothing is said about the answers, the files or the connection. This is deliberately little: the
sampler is proved correct for every source that follows this, without a look at what the source
asks.
-/

namespace PgVitals

/-! ## Laws of a past -/

/-- At each of some events, newest first, the law holds of the event and those before it. -/
def Lawful (law : Event → List Event → Prop) : List Event → Prop
  | [] => True
  | event :: earlier => law event earlier ∧ Lawful law earlier

namespace Lawful

variable {law law' : Event → List Event → Prop} {new later earlier : List Event} {event : Event}

theorem of_append (h : Lawful law (later ++ earlier)) : Lawful law earlier := by
  induction later with
  | nil => exact h
  | cons event later ih => exact ih h.2

theorem holds (h : Lawful law (later ++ event :: earlier)) : law event earlier :=
  h.of_append.1

/-- Events that the law says nothing about. -/
theorem append (h : Lawful law earlier) (free : ∀ event ∈ later, ∀ past, law event past) :
    Lawful law (later ++ earlier) := by
  induction later with
  | nil => exact h
  | cons event later ih =>
    exact ⟨free event List.mem_cons_self _,
      ih fun event member => free event (List.mem_cons_of_mem _ member)⟩

end Lawful

/-! ## Following -/

/-- From `s` to `s'` the events `new` happened, newest first, and the flags are those that follow
from them. -/
structure Follows (s : Session) (new : List Event) (s' : Session) : Prop where
  past : s'.past = new ++ s.past
  flags : s'.flags = s.handlers.flagsAfter s.flags new
  handlers : s'.handlers = s.handlers

namespace Follows

variable {w : Surroundings} {s s' s'' : Session} {new later : List Event} {signals : List Signal}

theorem rest : Follows s [] s := ⟨rfl, rfl, rfl⟩

theorem trans (h₁ : Follows s new s') (h₂ : Follows s' later s'') :
    Follows s (later ++ new) s'' where
  past := by rw [h₂.past, h₁.past, List.append_assoc]
  flags := by rw [h₂.flags, h₁.flags, h₁.handlers, Handlers.flagsAfter_append]
  handlers := h₂.handlers.trans h₁.handlers

theorem flag (h : Follows s new s') : s'.flags.shutdown = s.flagged new := by
  rw [h.flags]
  rfl

theorem receiveAll (signals : List Signal) :
    Follows s (signals.map Event.arrived).reverse (s.receiveAll signals) := by
  induction signals generalizing s with
  | nil => exact rest
  | cons signal signals ih =>
    have first : Follows s [.arrived signal] (s.receive signal) := ⟨rfl, rfl, rfl⟩
    have h := first.trans (ih (s := s.receive signal))
    simpa [Session.receiveAll] using h

/-- An event, and the signals that arrive right after it. -/
theorem after (event : Event) (same : ∀ flags, s.handlers.flagsAfter flags [event] = flags) :
    ∃ signals : List Signal,
      Follows s ((signals.map Event.arrived).reverse ++ [event]) (s.after w event) := by
  have first : Follows s [event] { s with past := event :: s.past } := ⟨rfl, (same _).symm, rfl⟩
  exact ⟨_, first.trans (receiveAll _)⟩

end Follows

/-- Nothing takes back the wish to end. -/
theorem Session.flagged_of_append {s : Session} {later earlier : List Event}
    (h : s.flagged earlier = true) : s.flagged (later ++ earlier) = true := by
  induction later with
  | nil => exact h
  | cons event later ih =>
    unfold flagged at ih ⊢
    cases event with
    | arrived signal =>
      simp only [List.cons_append, Handlers.flagsAfter, Handlers.deliver]
      split
      · cases signal <;> simp [Flags.note, ih]
      · exact ih
    | consumed signal pending => simpa [Handlers.flagsAfter] using ih
    | _ => simpa [Handlers.flagsAfter] using ih

/-! ## Runs that make some events only -/

/-- Whether an event belongs to a conversation with the server. -/
def Event.isConversation : Event → Bool
  | asked _ _ | arrived _ | logged _ _ => true
  | _ => false

namespace Run

variable {α β : Type} {A B : Event → Prop}

/-- Every path of `r` comes to an end, and makes no events but those of `A`. -/
structure Makes (A : Event → Prop) (r : Run α) : Prop where
  follows : ∀ w s, ∃ new, Follows s new (r.perform w s).2 ∧ ∀ event ∈ new, A event
  ends : ∀ w s, (r.perform w s).1 ≠ .error .unfinished

/-- A run that talks to the server, and does nothing else. -/
abbrev Converses (r : Run α) : Prop := r.Makes fun event => event.isConversation = true

namespace Makes

theorem mono {r : Run α} (hAB : ∀ event, A event → B event) (h : Makes A r) : Makes B r where
  follows w s :=
    let ⟨new, hn, made⟩ := h.follows w s
    ⟨new, hn, fun event member => hAB event (made event member)⟩
  ends := h.ends

theorem pure (a : α) : Makes A (Pure.pure a : Run α) :=
  ⟨fun _ _ => ⟨[], .rest, by simp⟩, fun _ _ => nofun⟩

theorem fail (failure : Failure) : Makes A (Run.fail failure : Run α) :=
  ⟨fun _ _ => ⟨[], .rest, by simp⟩, fun _ _ => by simp⟩

theorem get : Makes A (MonadState.get : Run Session) :=
  ⟨fun _ _ => ⟨[], .rest, by simp⟩, fun _ _ => nofun⟩

theorem read : Makes A (MonadReader.read : Run Surroundings) :=
  ⟨fun _ _ => ⟨[], .rest, by simp⟩, fun _ _ => nofun⟩

theorem bind {r : Run α} {f : α → Run β} (hr : Makes A r) (hf : ∀ a, Makes A (f a)) :
    Makes A (r >>= f) := by
  constructor
  · intro w s
    obtain ⟨new, hn, made⟩ := hr.follows w s
    rw [perform_bind]
    rcases h : r.perform w s with ⟨stop | a, s'⟩ <;> rw [h] at hn
    · exact ⟨new, hn, made⟩
    · obtain ⟨later, hl, also⟩ := (hf a).follows w s'
      refine ⟨later ++ new, hn.trans hl, fun event member => ?_⟩
      exact (List.mem_append.mp member).elim (also event) (made event)
  · intro w s
    have he := hr.ends w s
    rw [perform_bind]
    rcases h : r.perform w s with ⟨stop | a, s'⟩
    · rw [h] at he
      simpa using he
    · exact (hf a).ends w s'

theorem map {f : α → β} {r : Run α} (hr : Makes A r) : Makes A (f <$> r) := by
  rw [← bind_pure_comp]
  exact hr.bind fun a => pure (f a)

theorem rescue {r : Run α} {handle : Failure → Run α} (hr : Makes A r)
    (hh : ∀ failure, Makes A (handle failure)) : Makes A (Run.rescue r handle) := by
  constructor
  · intro w s
    obtain ⟨new, hn, made⟩ := hr.follows w s
    rw [perform_rescue]
    rcases h : r.perform w s with ⟨(failure | -) | a, s'⟩ <;> rw [h] at hn
    · obtain ⟨later, hl, also⟩ := (hh failure).follows w s'
      refine ⟨later ++ new, hn.trans hl, fun event member => ?_⟩
      exact (List.mem_append.mp member).elim (also event) (made event)
    · exact ⟨new, hn, made⟩
    · exact ⟨new, hn, made⟩
  · intro w s
    have he := hr.ends w s
    rw [perform_rescue]
    rcases h : r.perform w s with ⟨(failure | -) | a, s'⟩
    · exact (hh failure).ends w s'
    · exact absurd (congrArg Prod.fst h) he
    · nofun

theorem attempt {r : Run α} (hr : Makes A r) : Makes A (Run.attempt r) :=
  hr.map.rescue fun _ => pure _

theorem ofFault (r : Except Fault α) : Makes A (Run.ofFault r) := by
  cases r with
  | error fault => exact fail _
  | ok a => exact pure a

theorem ofExcept (r : Except Failure α) : Makes A (Run.ofExcept r) := by
  cases r with
  | error failure => exact fail failure
  | ok a => exact pure a

end Makes

namespace Converses

variable {s s' : Session} {statement : Statement}

theorem arrived (signals : List Signal) :
    ∀ event ∈ (signals.map Event.arrived).reverse, event.isConversation = true := by
  intro event member
  obtain ⟨signal, -, rfl⟩ := List.mem_map.mp (List.mem_reverse.mp member)
  rfl

theorem log (level : LogLevel) (text : String) : Converses (Run.log level text) := by
  constructor
  · intro w s
    obtain ⟨signals, hn⟩ := Follows.after (w := w) (s := s) (.logged level text) fun _ => rfl
    refine ⟨_, hn, fun event member => ?_⟩
    rcases List.mem_append.mp member with member | member
    · exact arrived signals event member
    · obtain rfl := List.mem_singleton.mp member
      rfl
  · intro w s
    simp

theorem send (statement : Statement) : Converses (Run.send statement) := by
  constructor
  · intro w s
    by_cases up : s.link = .up
    · rw [perform_send_up up]
      obtain ⟨due, stretch⟩ := Stretch.answered (w := w) (s := s) statement
      refine ⟨_, ⟨stretch.past, stretch.flags, stretch.handlers⟩, fun event member => ?_⟩
      rcases List.mem_append.mp member with member | member
      · exact arrived _ event member
      · obtain rfl := List.mem_singleton.mp member
        rfl
    · rw [perform_send_down up]
      exact ⟨[], .rest, by simp⟩
  · intro w s
    by_cases up : s.link = .up
    · rw [perform_send_up up]
      split <;> simp
    · rw [perform_send_down up]
      simp

theorem fetch (statement : Statement) : Converses (Run.fetch statement) := by
  refine (send statement).rescue fun failure => ?_
  split
  · unfold classify
    split
    · exact .fail _
    · refine Makes.get.bind fun s => ?_
      split
      · exact .fail _
      · exact (log _ _).bind fun _ => .fail _
  · exact .fail _

theorem rows (statement : Statement) : Converses (Run.rows statement) :=
  (fetch statement).bind fun set => .pure set.rows

end Converses

end Run

end PgVitals
