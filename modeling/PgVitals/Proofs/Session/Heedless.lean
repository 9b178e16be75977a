import PgVitals.Proofs.Session.Refusals
/-!
# Runs that do not heed signals

A signal does two things: it leaves a flag, and while a statement is under way it may lead the
server to refuse the statement. A run that never reads the flags sees the second only. Such a run is
the same with signals and without, as long as the server answers the same; and where a statement is
refused because it was cancelled, that ends the run.

* `Session.Alike` are two sessions in which the same has happened, but for signals; the flags are
  not looked at. `Surroundings.Alike` are surroundings that answer the same then.
* `Agree` relates two runs that end in the same way from alike sessions, and `Heedless` says so of a
  run and itself. There is one rule for each way of building a run; `Heedless.fetch` is the one for
  a statement.
* `Run.Halts` says that nothing is sent after a statement that was cancelled, and which failure the
  run ends with. `Run.Mute` are runs that send nothing, which may come after it.

Reading the flag of the user's wish is what a heedless run must not do, so there is no rule for it.
The surroundings are alike by assumption: a server whose answers depend on when signals arrive,
other than by refusing what was cancelled, is not compared with itself here.
-/

namespace PgVitals

open PgVitals.Text

/-! ## Being alike -/

/-- What is left of an event when there are no signals. -/
def Event.silenced : Event → Option Event
  | arrived _ => none
  | asked statement reply => some (.asked statement { reply with signals := [] })
  | event => some event

/-- Some events without the signals among them. -/
def silenced (past : List Event) : List Event := past.filterMap Event.silenced

/-- Two sessions in which the same has happened, but for signals. The flags are not looked at. -/
structure Session.Alike (s s' : Session) : Prop where
  handlers : s.handlers = s'.handlers
  link : s.link = s'.link
  holdings : s.holdings = s'.holdings
  files : s.files = s'.files
  past : silenced s.past = silenced s'.past

/-- Two surroundings that are the same but for signals: where the same has happened, but for
signals, the server answers the same, but for signals. -/
structure Surroundings.Alike (w w' : Surroundings) : Prop where
  outcome : ∀ past past' statement, silenced past = silenced past' →
    (w.reply past statement).outcome = (w'.reply past' statement).outcome
  closes : ∀ past past' statement, silenced past = silenced past' →
    (w.reply past statement).closes = (w'.reply past' statement).closes
  environment : w.environment = w'.environment
  refusal : w.refusal = w'.refusal
  configurationError : w.configurationError = w'.configurationError
  writeRefusal : w.writeRefusal = w'.writeRefusal
  terminal : w.terminal = w'.terminal
  patience : w.patience = w'.patience

variable {w w' : Surroundings} {s s' : Session}

theorem silenced_cons (event : Event) (past : List Event) :
    silenced (event :: past) = event.silenced.toList ++ silenced past := by
  rw [silenced, List.filterMap_cons]
  cases event.silenced <;> rfl

namespace Session.Alike

variable {s'' : Session}

theorem symm (alike : s.Alike s') : s'.Alike s :=
  ⟨alike.handlers.symm, alike.link.symm, alike.holdings.symm, alike.files.symm, alike.past.symm⟩

theorem trans (h₁ : s.Alike s') (h₂ : s'.Alike s'') : s.Alike s'' :=
  ⟨h₁.handlers.trans h₂.handlers, h₁.link.trans h₂.link, h₁.holdings.trans h₂.holdings,
    h₁.files.trans h₂.files, h₁.past.trans h₂.past⟩

/-- A session stays what it is when signals arrive. -/
theorem received (signals : List Signal) : (s.receiveAll signals).Alike s := by
  induction signals generalizing s with
  | nil => exact ⟨rfl, rfl, rfl, rfl, rfl⟩
  | cons signal signals ih =>
    have once : (s.receive signal).Alike s := ⟨rfl, rfl, rfl, rfl, rfl⟩
    exact (ih (s := s.receive signal)).trans once

theorem receiveAll (alike : s.Alike s') (signals signals' : List Signal) :
    (s.receiveAll signals).Alike (s'.receiveAll signals') :=
  ((received signals).trans alike).trans (received signals').symm

/-- The same happens in both sessions. -/
theorem noted (alike : s.Alike s') {event event' : Event}
    (same : event.silenced = event'.silenced) :
    Alike { s with past := event :: s.past } { s' with past := event' :: s'.past } :=
  ⟨alike.handlers, alike.link, alike.holdings, alike.files, by
    rw [silenced_cons, silenced_cons, same, alike.past]⟩

theorem after (alike : s.Alike s') (event : Event) : (s.after w event).Alike (s'.after w' event) :=
  (alike.noted rfl).receiveAll _ _

theorem linked (alike : s.Alike s') (link : Link) :
    Alike { s with link := link } { s' with link := link } :=
  ⟨alike.handlers, rfl, alike.holdings, alike.files, alike.past⟩

/-- A statement is answered in the same way. -/
theorem answered (alike : s.Alike s') (worlds : w.Alike w') (statement : Statement) :
    (s.answered w statement).Alike (s'.answered w' statement) := by
  have closes := worlds.closes s.past s'.past statement alike.past
  have same : (Event.asked statement (w.reply s.past statement)).silenced =
      (Event.asked statement (w'.reply s'.past statement)).silenced := by
    rw [Event.silenced, Event.silenced, closes, worlds.outcome s.past s'.past statement alike.past]
  unfold Session.answered
  dsimp only
  rw [closes]
  split
  · exact (((alike.noted same).receiveAll _ _).receiveAll _ _).linked .lost
  · exact ((alike.noted same).receiveAll _ _).receiveAll _ _

end Session.Alike

/-! ## Runs that agree -/

namespace Run

variable {α β : Type} {r r' : Run α}

/-- Two runs agree if they end in the same way in alike surroundings, and leave alike sessions. -/
def Agree (r r' : Run α) : Prop :=
  ∀ w w' s s', w.Alike w' → s.Alike s' →
    (r.perform w s).1 = (r'.perform w' s').1 ∧ (r.perform w s).2.Alike (r'.perform w' s').2

/-- Signals make no difference to a run. -/
def Heedless (r : Run α) : Prop := Agree r r

namespace Agree

theorem bind {f f' : α → Run β} (hr : Agree r r') (hf : ∀ a, Agree (f a) (f' a)) :
    Agree (r >>= f) (r' >>= f') := by
  intro w w' s s' worlds alike
  obtain ⟨same, left⟩ := hr w w' s s' worlds alike
  rw [perform_bind, perform_bind]
  rcases ended : r.perform w s with ⟨result, t⟩
  rcases ended' : r'.perform w' s' with ⟨result', t'⟩
  rw [ended, ended'] at same left
  obtain rfl : result = result' := same
  cases result with
  | error stop => exact ⟨rfl, left⟩
  | ok a => exact hf a w w' t t' worlds left

theorem rescue {handle handle' : Failure → Run α} (hr : Agree r r')
    (hh : ∀ failure, Agree (handle failure) (handle' failure)) :
    Agree (Run.rescue r handle) (Run.rescue r' handle') := by
  intro w w' s s' worlds alike
  obtain ⟨same, left⟩ := hr w w' s s' worlds alike
  rw [perform_rescue, perform_rescue]
  rcases ended : r.perform w s with ⟨result, t⟩
  rcases ended' : r'.perform w' s' with ⟨result', t'⟩
  rw [ended, ended'] at same left
  obtain rfl : result = result' := same
  rcases result with (failure | -) | a
  · exact hh failure w w' t t' worlds left
  · exact ⟨rfl, left⟩
  · exact ⟨rfl, left⟩

/-- What is read of a session is alike. -/
theorem get {f f' : Session → Run α} (hf : ∀ s s', s.Alike s' → Agree (f s) (f' s')) :
    Agree (MonadState.get >>= f) (MonadState.get >>= f') :=
  fun w w' s s' worlds alike => hf s s' alike w w' s s' worlds alike

theorem read {f f' : Surroundings → Run α} (hf : ∀ w w', w.Alike w' → Agree (f w) (f' w')) :
    Agree (MonadReader.read >>= f) (MonadReader.read >>= f') :=
  fun w w' s s' worlds alike => hf w w' worlds w w' s s' worlds alike

theorem set {t t' : Session} (alike : t.Alike t') :
    Agree (MonadStateOf.set t : Run PUnit) (MonadStateOf.set t') :=
  fun _ _ _ _ _ _ => ⟨rfl, alike⟩

end Agree

namespace Heedless

theorem pure (a : α) : Heedless (Pure.pure a : Run α) := fun _ _ _ _ _ alike => ⟨rfl, alike⟩

theorem fail (failure : Failure) : Heedless (Run.fail failure : Run α) :=
  fun _ _ _ _ _ alike => ⟨rfl, alike⟩

theorem modify {f : Session → Session} (alike : ∀ s s', s.Alike s' → (f s).Alike (f s')) :
    Heedless (modify f : Run PUnit) :=
  fun _ _ s s' _ h => ⟨rfl, alike s s' h⟩

theorem note (event : Event) : Heedless (Run.note event) :=
  fun _ _ _ _ _ alike => ⟨rfl, alike.after event⟩

theorem log (level : LogLevel) (text : String) : Heedless (Run.log level text) := note _

theorem bind {f : α → Run β} (hr : Heedless r) (hf : ∀ a, Heedless (f a)) : Heedless (r >>= f) :=
  Agree.bind hr hf

theorem rescue {handle : Failure → Run α} (hr : Heedless r)
    (hh : ∀ failure, Heedless (handle failure)) : Heedless (Run.rescue r handle) :=
  Agree.rescue hr hh

theorem ofExcept (e : Except Failure α) : Heedless (Run.ofExcept e) := by
  cases e with
  | error failure => exact fail failure
  | ok a => exact pure a

theorem ofFault (e : Except Fault α) : Heedless (Run.ofFault e) := by
  cases e with
  | error fault => exact fail _
  | ok a => exact pure a

theorem firstCell (rows : List (List Value)) : Heedless (Run.firstCell rows) := by
  unfold Run.firstCell
  split
  · exact pure _
  · exact fail _

theorem forM {items : List α} {f : α → Run PUnit} (each : ∀ a, Heedless (f a)) :
    Heedless (items.forM f) := by
  induction items with
  | nil => exact pure _
  | cons a items ih => exact (each a).bind fun _ => ih

theorem send (statement : Statement) : Heedless (Run.send statement) := by
  refine Agree.get fun s s' alike => Agree.read fun w w' worlds => ?_
  rw [alike.link, worlds.outcome s.past s'.past statement alike.past]
  split
  · exact fail _
  · refine (Agree.set (alike.answered worlds statement)).bind fun _ => ?_
    split
    · exact pure _
    · exact pure _
    · exact fail _

theorem classify (sql : String) (error : DriverError) :
    Heedless (Run.classify sql error : Run α) := by
  unfold Run.classify
  split
  · exact fail _
  · refine Agree.get fun s s' alike => ?_
    rw [alike.link]
    split
    · exact fail _
    · exact (log _ _).bind fun _ => fail _

theorem fetch (statement : Statement) : Heedless (Run.fetch statement) := by
  refine (send statement).rescue fun failure => ?_
  split
  · exact classify _ _
  · exact fail _

theorem rows (statement : Statement) : Heedless (Run.rows statement) :=
  (fetch statement).bind fun _ => pure _

theorem fetchRelease : Heedless Run.fetchRelease := by
  refine ((rows _).rescue fun failure => ?_).bind fun rows => ?_
  · split <;> exact fail _
  · split
    · exact fail _
    · exact (firstCell rows).bind fun cell => (ofExcept _).bind fun release =>
        (log _ _).bind fun _ => pure _

theorem hangUp : Heedless Run.hangUp := by
  refine Agree.get fun s s' alike => ?_
  rw [alike.link]
  split
  · exact (modify fun _ _ alike => alike.linked _).bind fun _ => note _
  · exact pure _

theorem setHandlers (handlers : Handlers) : Heedless (Run.setHandlers handlers) := by
  refine bind (modify fun s s' alike => ?_) fun _ => note _
  exact ⟨rfl, alike.link, alike.holdings, alike.files, alike.past⟩

theorem thenAlways {last : Run Unit} (hr : Heedless r) (hl : Heedless last) :
    Heedless (Run.thenAlways r last) :=
  (hr.rescue fun failure => hl.bind fun _ => fail failure).bind fun a => hl.bind fun _ => pure a

theorem withHandlers (handlers : Handlers) (hr : Heedless r) :
    Heedless (Run.withHandlers handlers r) := by
  refine Agree.get fun s s' alike => ?_
  rw [alike.handlers]
  exact (setHandlers handlers).bind fun _ => hr.thenAlways (setHandlers _)

end Heedless

end Run

/-! ## Cancelled statements -/

/-- Whether a statement was refused because it was cancelled. -/
def Event.isCancelled : Event → Bool
  | asked _ reply =>
    match reply.outcome with
    | .refused error => error.kind = .cancelled
    | _ => false
  | _ => false

/-- How a run has ended after some events that fails in one way over a cancelled statement: there
was none, or it was the last statement. -/
inductive Halting {α : Type} (failure : Failure) : List Event → Except Stop α → Prop
  | unhindered {new : List Event} {result : Except Stop α}
      (none : ∀ event ∈ new, event.isCancelled = false) : Halting failure new result
  | halted {later earlier : List Event} {event : Event} (quiet : Silent later)
      (cancelled : event.isCancelled = true) (none : ∀ other ∈ earlier, other.isCancelled = false) :
      Halting failure (later ++ event :: earlier) (.error (.failed failure))

/-- Nothing is sent after a statement that was cancelled, and the run fails. -/
def Run.Halts {α : Type} (failure : Failure) (r : Run α) : Prop :=
  ∀ w s, ∃ new, (r.perform w s).2.past = new ++ s.past ∧ Halting failure new (r.perform w s).1

/-- A run that sends nothing. -/
def Run.Mute {α : Type} (r : Run α) : Prop :=
  ∀ w s, ∃ new, (r.perform w s).2.past = new ++ s.past ∧ Silent new

variable {α β : Type} {new earlier later : List Event} {failure : Failure}

theorem Silent.not_cancelled (silent : Silent new) : ∀ event ∈ new, event.isCancelled = false := by
  intro event member
  cases event with
  | asked statement reply => exact absurd member (silent.not_asked statement reply)
  | _ => rfl

theorem Event.isCancelled_refused {statement : Statement} {reply : Reply} {error : DriverError}
    (refuses : reply.outcome = .refused error) :
    (Event.asked statement reply).isCancelled = decide (error.kind = .cancelled) := by
  rw [isCancelled, refuses]

theorem Event.isCancelled_accepted {statement : Statement} {reply : Reply}
    (accepts : reply.accepts = true) : (Event.asked statement reply).isCancelled = false := by
  cases ends : reply.outcome with
  | refused error =>
    rw [Reply.accepts_refused ends] at accepts
    cases accepts
  | done | result => rw [isCancelled, ends]

namespace Halting

theorem behind {result : Except Stop α} (none : ∀ event ∈ earlier, event.isCancelled = false)
    (rest : Halting failure new result) : Halting failure (new ++ earlier) result := by
  have both : ∀ {events : List Event}, (∀ event ∈ events, event.isCancelled = false) →
      ∀ event ∈ events ++ earlier, event.isCancelled = false :=
    fun own event member => (List.mem_append.mp member).elim (own event) (none event)
  cases rest with
  | unhindered own => exact .unhindered (both own)
  | halted quiet cancelled own =>
    rw [List.append_assoc, List.cons_append]
    exact .halted quiet cancelled (both own)

/-- What follows without a statement does not matter. -/
theorem andMute {result : Except Stop α} {result' : Except Stop β} {failure' : Failure}
    (before : Halting failure new result) (silent : Silent later)
    (turns : result = .error (.failed failure) → result' = .error (.failed failure')) :
    Halting failure' (later ++ new) result' := by
  cases before with
  | unhindered none =>
    refine .unhindered fun event member => ?_
    exact (List.mem_append.mp member).elim (silent.not_cancelled event) (none event)
  | halted quiet cancelled none =>
    rw [turns rfl, ← List.append_assoc]
    exact .halted (silent.append quiet) cancelled none

end Halting

namespace Run

variable {r : Run α} {f : α → Run β}

namespace Mute

theorem fail (failure : Failure) : Mute (Run.fail failure : Run α) :=
  fun _ _ => ⟨[], rfl, by simp [Silent]⟩

theorem of_hushed (hushed : Hushed true r) : Mute r := by
  intro w s
  obtain ⟨new, leads, silent⟩ := hushed.leads w s
  exact ⟨new, leads.past, silent⟩

theorem pure (a : α) : Mute (Pure.pure a : Run α) := fun _ _ => ⟨[], rfl, by simp [Silent]⟩

theorem modify {f : Session → Session} (past : ∀ s, (f s).past = s.past) :
    Mute (modify f : Run PUnit) := fun _ s => ⟨[], past s, by simp [Silent]⟩

theorem note {event : Event} (unasked : event.statement? = none) : Mute (Run.note event) := by
  intro w s
  refine ⟨((w.arrivals (event :: s.past)).map Event.arrived).reverse ++ [event], ?_, ?_⟩
  · rw [perform_note, Session.after, (Follows.receiveAll _).past, List.append_assoc]
    rfl
  · exact (Silent.arrived _).append (by simpa [Silent] using unasked)

theorem bind (hr : Mute r) (hf : ∀ a, Mute (f a)) : Mute (r >>= f) := by
  intro w s
  obtain ⟨new, past, silent⟩ := hr w s
  rw [perform_bind]
  rcases ended : r.perform w s with ⟨stop | a, s'⟩ <;> rw [ended] at past
  · exact ⟨new, past, silent⟩
  · obtain ⟨later, more, quiet⟩ := hf a w s'
    exact ⟨later ++ new, by rw [more, past, List.append_assoc], quiet.append silent⟩

theorem rescue {handle : Failure → Run α} (hr : Mute r) (hh : ∀ failure, Mute (handle failure)) :
    Mute (Run.rescue r handle) := by
  intro w s
  obtain ⟨new, past, silent⟩ := hr w s
  rw [perform_rescue]
  rcases ended : r.perform w s with ⟨(failure | -) | a, s'⟩ <;> rw [ended] at past
  · obtain ⟨later, more, quiet⟩ := hh failure w s'
    exact ⟨later ++ new, by rw [more, past, List.append_assoc], quiet.append silent⟩
  · exact ⟨new, past, silent⟩
  · exact ⟨new, past, silent⟩

end Mute

namespace Halts

theorem of_mute (mute : Mute r) : Halts failure r := by
  intro w s
  obtain ⟨new, past, silent⟩ := mute w s
  exact ⟨new, past, .unhindered silent.not_cancelled⟩

theorem of_hushed (hushed : Hushed true r) : Halts failure r :=
  of_mute (.of_hushed hushed)

theorem bind (hr : Halts failure r) (hf : ∀ a, Halts failure (f a)) : Halts failure (r >>= f) := by
  intro w s
  obtain ⟨new, past, halting⟩ := hr w s
  rw [perform_bind]
  rcases ended : r.perform w s with ⟨stop | a, s'⟩ <;> rw [ended] at past halting
  · refine ⟨new, past, halting.andMute (by simp [Silent] : Silent []) fun same => ?_⟩
    cases same
    rfl
  · cases halting with
    | unhindered none =>
      obtain ⟨later, more, rest⟩ := hf a w s'
      exact ⟨later ++ new, by rw [more, past, List.append_assoc], rest.behind none⟩

/-- A handler that sends nothing decides what the run fails with. -/
theorem rescue {handle : Failure → Run α} {failure' : Failure} (hr : Halts failure r)
    (mute : ∀ cause, Mute (handle cause))
    (turns : ∀ w s, ((handle failure).perform w s).1 = .error (.failed failure')) :
    Halts failure' (Run.rescue r handle) := by
  intro w s
  obtain ⟨new, past, halting⟩ := hr w s
  rw [perform_rescue]
  rcases ended : r.perform w s with ⟨(cause | -) | a, s'⟩ <;> rw [ended] at past halting
  · obtain ⟨later, more, silent⟩ := mute cause w s'
    refine ⟨later ++ new, by rw [more, past, List.append_assoc], halting.andMute silent ?_⟩
    intro same
    cases same
    exact turns w s'
  · refine ⟨new, past, halting.andMute (by simp [Silent] : Silent []) fun same => ?_⟩
    cases same
  · refine ⟨new, past, halting.andMute (by simp [Silent] : Silent []) fun same => ?_⟩
    cases same

/-- A statement that was cancelled interrupts the run. -/
theorem fetch (statement : Statement) :
    Halts (.interrupted .cancelledQuery) (Run.fetch statement) := by
  intro w s
  have ends := fetched w s statement
  generalize (Run.fetch statement).perform w s = ended at ends ⊢
  obtain ⟨result, s'⟩ := ended
  simp only at ends
  by_cases up : s.link = .up
  · obtain ⟨quiet, stretch, silent⟩ := ends.sent up
    refine ⟨_, stretch.past, ?_⟩
    have whole : (Event.asked statement (w.reply s.past statement)).isCancelled = false →
        Halting (α := ResultSet) (.interrupted .cancelledQuery)
          (quiet ++ [.asked statement (w.reply s.past statement)]) result := by
      intro here
      refine .unhindered fun event member => ?_
      rcases List.mem_append.mp member with member | member
      · exact silent.not_cancelled event member
      · rwa [List.mem_singleton.mp member]
    cases ends with
    | unsent down => exact absurd up down
    | accepted _ set accepts => exact whole (Event.isCancelled_accepted accepts)
    | refused _ error refuses =>
      have here : (Event.asked statement (w.reply s.past statement)).isCancelled =
          decide (error.kind = .cancelled) := Event.isCancelled_refused refuses
      by_cases kind : error.kind = .cancelled
      · rw [meaning, if_pos kind]
        exact .halted silent (by rw [here, kind]; rfl) (by simp)
      · exact whole (by simp [here, kind])
  · cases ends with
    | unsent => exact ⟨[], rfl, .unhindered (by simp)⟩
    | accepted up' | refused up' => exact absurd up' up

end Halts

end Run

end PgVitals
