import PgVitals.Proofs.Session.Following
import PgVitals.Proofs.Session.Objects
/-!
# Work over a connection

What a utility does over its connection is work: it talks to the server, prints, logs and pauses. It
leaves the connection open, complains about nothing and keeps the handlers of signals. That is said
of a run by its events, for all the ways of building one, and for runs that are cut short as well.

* `Event.isWork` tells the events of work from those of starting and ending a utility.
* `Adds` relates two sessions by the events between them, all of which are work, with the handlers
  unchanged. `Works` is a run that does nothing else, whatever it ends with.
* `Works.bind`, `Works.rescue`, `Works.forM` and `Works.attempt` are the rules for building runs,
  and `Works.of_converses` takes over what is known of runs that talk to the server only.

A run that works may still lose its connection: that is done by an answer of the server, and by
nothing the run does itself. The utilities are gone through in `Proofs/Command/Working`.
-/

namespace PgVitals

/-- Whether an event belongs to the work of a utility, and not to how it is started and ended. -/
def Event.isWork : Event → Bool
  | complained _ | logShown _ _ | dialled _ | configured _ | hungUp | handlersSet _ => false
  | _ => true

/-- From `s` to `s'` the events `new` happened, newest first, and the handlers stayed. -/
structure Adds (s : Session) (new : List Event) (s' : Session) : Prop where
  past : s'.past = new ++ s.past
  handlers : s'.handlers = s.handlers

namespace Adds

variable {w : Surroundings} {s s' s'' : Session} {new later : List Event}

theorem rest : Adds s [] s := ⟨rfl, rfl⟩

theorem trans (h₁ : Adds s new s') (h₂ : Adds s' later s'') : Adds s (later ++ new) s'' :=
  ⟨by rw [h₂.past, h₁.past, List.append_assoc], h₂.handlers.trans h₁.handlers⟩

theorem of_follows (h : Follows s new s') : Adds s new s' := ⟨h.past, h.handlers⟩

theorem receiveAll (signals : List Signal) :
    Adds s (signals.map Event.arrived).reverse (s.receiveAll signals) :=
  .of_follows (Follows.receiveAll signals)

/-- An event, and the signals that arrive right after it. -/
theorem after (event : Event) :
    ∃ signals : List Signal,
      Adds s ((signals.map Event.arrived).reverse ++ [event]) (s.after w event) := by
  have noted : Adds s [event] { s with past := event :: s.past } := ⟨rfl, rfl⟩
  exact ⟨_, noted.trans (receiveAll _)⟩

end Adds

namespace Run

variable {α β : Type}

/-- A run that does nothing but work. -/
def Works (r : Run α) : Prop :=
  ∀ w s, ∃ new, Adds s new (r.perform w s).2 ∧ ∀ event ∈ new, event.isWork = true

namespace Works

theorem arrived (signals : List Signal) :
    ∀ event ∈ (signals.map Event.arrived).reverse, event.isWork = true := by
  intro event member
  obtain ⟨signal, -, rfl⟩ := List.mem_map.mp (List.mem_reverse.mp member)
  rfl

theorem pure (a : α) : Works (Pure.pure a : Run α) :=
  fun _ _ => ⟨[], .rest, by simp⟩

theorem fail (failure : Failure) : Works (Run.fail failure : Run α) :=
  fun _ _ => ⟨[], .rest, by simp⟩

theorem unfinished : Works (throw .unfinished : Run α) :=
  fun _ _ => ⟨[], .rest, by simp⟩

theorem get : Works (MonadState.get : Run Session) :=
  fun _ _ => ⟨[], .rest, by simp⟩

theorem read : Works (MonadReader.read : Run Surroundings) :=
  fun _ _ => ⟨[], .rest, by simp⟩

/-- The rest of the session is no business of its events. -/
theorem modify {f : Session → Session} (past : ∀ s, (f s).past = s.past)
    (handlers : ∀ s, (f s).handlers = s.handlers) : Works (modify f : Run PUnit) :=
  fun _ s => ⟨[], ⟨past s, handlers s⟩, by simp⟩

theorem hold (change : Holdings → Holdings) : Works (Run.hold change) :=
  modify (fun _ => rfl) fun _ => rfl

theorem note {event : Event} (work : event.isWork = true) : Works (Run.note event) := by
  intro w s
  obtain ⟨signals, adds⟩ := Adds.after (w := w) (s := s) event
  refine ⟨_, adds, fun other member => ?_⟩
  rcases List.mem_append.mp member with member | member
  · exact arrived signals other member
  · obtain rfl := List.mem_singleton.mp member
    exact work

theorem log (level : LogLevel) (text : String) : Works (Run.log level text) := note rfl

theorem printLine (text : String) : Works (Run.printLine text) := note rfl

theorem sleep (seconds : Value) : Works (Run.sleep seconds) := note rfl

theorem bind {r : Run α} {f : α → Run β} (hr : Works r) (hf : ∀ a, Works (f a)) :
    Works (r >>= f) := by
  intro w s
  obtain ⟨new, adds, work⟩ := hr w s
  rw [perform_bind]
  rcases h : r.perform w s with ⟨stop | a, s'⟩ <;> rw [h] at adds
  · exact ⟨new, adds, work⟩
  · obtain ⟨later, more, also⟩ := hf a w s'
    refine ⟨later ++ new, adds.trans more, fun event member => ?_⟩
    exact (List.mem_append.mp member).elim (also event) (work event)

theorem map {f : α → β} {r : Run α} (hr : Works r) : Works (f <$> r) := by
  rw [← bind_pure_comp]
  exact hr.bind fun a => pure (f a)

theorem rescue {r : Run α} {handle : Failure → Run α} (hr : Works r)
    (hh : ∀ failure, Works (handle failure)) : Works (Run.rescue r handle) := by
  intro w s
  obtain ⟨new, adds, work⟩ := hr w s
  rw [perform_rescue]
  rcases h : r.perform w s with ⟨(failure | -) | a, s'⟩ <;> rw [h] at adds
  · obtain ⟨later, more, also⟩ := hh failure w s'
    refine ⟨later ++ new, adds.trans more, fun event member => ?_⟩
    exact (List.mem_append.mp member).elim (also event) (work event)
  · exact ⟨new, adds, work⟩
  · exact ⟨new, adds, work⟩

theorem attempt {r : Run α} (hr : Works r) : Works (Run.attempt r) :=
  hr.map.rescue fun _ => pure _

theorem ofFault (r : Except Fault α) : Works (Run.ofFault r) := by
  cases r with
  | error fault => exact fail _
  | ok a => exact pure a

theorem printValue (label : String) (v : Value) : Works (Run.printValue label v) :=
  (ofFault _).bind fun _ => printLine _

theorem ofExcept (r : Except Failure α) : Works (Run.ofExcept r) := by
  cases r with
  | error failure => exact fail failure
  | ok a => exact pure a

theorem forM {f : α → Run Unit} (items : List α) (h : ∀ a, Works (f a)) : Works (items.forM f) := by
  induction items with
  | nil => exact pure _
  | cons a items ih => exact (h a).bind fun _ => ih

theorem shutdownWanted : Works Run.shutdownWanted :=
  (note rfl).bind fun _ => get.bind fun _ => pure _

theorem logWritten (level : LogLevel) (text : Except Fault String) :
    Works (Run.logWritten level text) := by
  have logged : Works (Run.isLogged level) := by
    refine get.bind fun s => ?_
    split
    · exact pure _
    · exact pure _
  refine logged.bind fun shown => ?_
  split
  · split
    · exact log level _
    · refine read.bind fun w => ?_
      split
      · exact fail _
      · exact pure _
  · exact pure _

/-- Talking to the server is work. -/
theorem of_converses {r : Run α} (h : r.Converses) : Works r := by
  intro w s
  obtain ⟨new, follows, made⟩ := h.follows w s
  refine ⟨new, .of_follows follows, fun event member => ?_⟩
  have conversation := made event member
  cases event <;> first | rfl | cases conversation

theorem fetch (statement : Statement) : Works (Run.fetch statement) :=
  of_converses (.fetch statement)

theorem rows (statement : Statement) : Works (Run.rows statement) :=
  of_converses (.rows statement)

theorem execute (sql : String) : Works (Run.execute sql) :=
  (fetch _).bind fun _ => pure _

theorem firstCell (rows : List (List Value)) : Works (Run.firstCell rows) := by
  unfold Run.firstCell
  split
  · exact pure _
  · exact fail _

theorem fetchRelease : Works Run.fetchRelease := by
  unfold Run.fetchRelease
  refine ((rows _).rescue fun failure => ?_).bind fun rows => ?_
  · split <;> exact fail _
  · split
    · exact fail _
    · exact (firstCell rows).bind fun cell => (ofExcept _).bind fun release =>
        (log _ _).bind fun _ => pure _

end Works

end Run

end PgVitals
