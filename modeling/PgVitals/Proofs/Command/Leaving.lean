import PgVitals.Proofs.Command.Jobs
/-!
# Leaving a command

The ways out of a command: a connection that is not made, a connection that is closed, handlers that
are set back, failures that are told. What each of them does to the session is an equation, and what
all of them have in common is that nothing is asked any more.

* `Happens` relates two sessions by events of one kind: those that can come before a connection is
  asked for, those that can come before a command is left, and those with which it is left.
* `Parts` is the last of these together with the lines that are complained meanwhile, oldest first.
* `Access.perform_connect`, `perform_hangUp`, `perform_endWith` and `perform_endSnapshot` are the
  equations. `Access.perform_use` is the one they come together in: without a connection the user is
  told why; with one, the work is done and the connection is closed, and then the handlers of before
  are back.
* `Failure.lines` and `ConnectionCause.lines` are what the user is told.

A connection can be refused, or it can be made and then not be put into read-only mode; in the
second case it is closed again. What is written to standard error by the handlers of log records is
not counted as told to the user.
-/

namespace PgVitals

variable {w : Surroundings} {s s' s'' : Session}

/-! ## What comes first and last -/

/-- The text on standard error of an event, but for log records. -/
def Event.complaint? : Event → Option String
  | complained text => some text
  | _ => none

/-- What was complained about in some events, which are listed newest first; the complaints are
listed oldest first. -/
def complaintsIn (events : List Event) : List String := (events.filterMap Event.complaint?).reverse

theorem complaintsIn_append (later earlier : List Event) :
    complaintsIn (later ++ earlier) = complaintsIn earlier ++ complaintsIn later := by
  simp [complaintsIn]

/-- Whether an event can be one of those that come before a connection is asked for. -/
def Event.isOutset (event : Event) : Bool := event.isWork || event.leastShown?.isSome

/-- Whether an event can be one of those that come before a command is left. -/
def Event.isEarly : Event → Bool
  | complained _ | hungUp => false
  | _ => true

/-- Whether an event can be one of those with which a command is left. -/
def Event.isParting : Event → Bool
  | complained _ | hungUp | handlersSet _ | arrived _ => true
  | _ => false

theorem Event.isEarly_of_isOutset {event : Event} (h : event.isOutset = true) :
    event.isEarly = true := by
  cases event <;> first | rfl | cases h

/-- From `s` to `s'` the events `new` happened, newest first, and all of them are of one kind. -/
structure Happens (kind : Event → Bool) (s : Session) (new : List Event) (s' : Session) : Prop where
  past : s'.past = new ++ s.past
  kind : ∀ event ∈ new, kind event = true

namespace Happens

variable {kind other : Event → Bool} {new later : List Event}

theorem rest : Happens kind s [] s := ⟨rfl, by simp⟩

theorem trans (h₁ : Happens kind s new s') (h₂ : Happens kind s' later s'') :
    Happens kind s (later ++ new) s'' where
  past := by rw [h₂.past, h₁.past, List.append_assoc]
  kind event member := (List.mem_append.mp member).elim (h₂.kind event) (h₁.kind event)

theorem mono (h : Happens kind s new s') (le : ∀ event, kind event = true → other event = true) :
    Happens other s new s' :=
  ⟨h.past, fun event member => le event (h.kind event member)⟩

theorem of_works {α : Type} {r : Run α} (h : r.Works) :
    ∃ new, Happens Event.isOutset s new (r.perform w s).2 := by
  obtain ⟨new, adds, work⟩ := h w s
  exact ⟨new, adds.past, fun event member => by simp [Event.isOutset, work event member]⟩

/-- An event, and the signals that arrive right after it. -/
theorem after (kind : Event → Bool) (event : Event) (here : kind event = true)
    (signals : ∀ signal, kind (.arrived signal) = true) :
    ∃ arrivals : List Signal,
      Happens kind s ((arrivals.map Event.arrived).reverse ++ [event]) (s.after w event) := by
  obtain ⟨arrivals, adds⟩ := Adds.after (w := w) (s := s) event
  refine ⟨arrivals, adds.past, fun other member => ?_⟩
  rcases List.mem_append.mp member with member | member
  · obtain ⟨signal, -, rfl⟩ := List.mem_map.mp (List.mem_reverse.mp member)
    exact signals signal
  · obtain rfl := List.mem_singleton.mp member
    exact here

/-- What comes before a command is left is no complaint. -/
theorem complaintsIn_early (h : Happens Event.isEarly s new s') : complaintsIn new = [] := by
  rw [complaintsIn, List.reverse_eq_nil_iff, List.filterMap_eq_nil_iff]
  intro event member
  have early := h.kind event member
  cases event <;> first | rfl | cases early

end Happens

/-- From `s` to `s'` a command is being left, and the lines are complained. -/
structure Parts (s : Session) (new : List Event) (lines : List String) (s' : Session) : Prop
    extends Happens Event.isParting s new s' where
  lines : complaintsIn new = lines

namespace Parts

variable {new later : List Event} {lines more : List String}

theorem rest : Parts s [] [] s := ⟨.rest, rfl⟩

theorem trans (h₁ : Parts s new lines s') (h₂ : Parts s' later more s'') :
    Parts s (later ++ new) (lines ++ more) s'' :=
  ⟨h₁.toHappens.trans h₂.toHappens, by rw [complaintsIn_append, h₁.lines, h₂.lines]⟩

/-- An event, and the signals that arrive right after it. -/
theorem after (event : Event) (here : event.isParting = true) :
    ∃ new, event ∈ new ∧ Parts s new event.complaint?.toList (s.after w event) := by
  obtain ⟨arrivals, happens⟩ :=
    Happens.after (w := w) (s := s) Event.isParting event here fun _ => rfl
  refine ⟨_, by simp, happens, ?_⟩
  have none : complaintsIn (arrivals.map Event.arrived).reverse = [] := by
    simp [complaintsIn, Event.complaint?, List.filterMap_eq_nil_iff]
  rw [complaintsIn_append, none, List.append_nil]
  cases h : event.complaint? <;> simp [complaintsIn, h]

/-- The rest of a session may change unseen. -/
theorem of_past (h : Parts s new lines s') (same : s.past = s''.past) : Parts s'' new lines s' :=
  ⟨⟨by rw [h.past, same], h.kind⟩, h.lines⟩

end Parts

/-- Neither an event nor the signals due after it change the connection. -/
theorem Session.link_after (event : Event) : (s.after w event).link = s.link := by
  have signals := Stretch.receiveAll (w := w) (s := { s with past := event :: s.past })
    (w.arrivals (event :: s.past))
  rw [Session.after, signals.link]
  simp [Event.closes]

theorem Session.handlers_after (event : Event) : (s.after w event).handlers = s.handlers := by
  obtain ⟨signals, adds⟩ := Adds.after (w := w) (s := s) event
  exact adds.handlers

/-! ## Complaints -/

/-- The session after some lines were written to standard error. -/
def told (w : Surroundings) (s : Session) (lines : List String) : Session :=
  lines.foldl (fun s line => s.after w (.complained (line ++ "\n"))) s

/-- Lines on standard error. -/
def asLines (lines : List String) : List String := lines.map (· ++ "\n")

theorem told_parts (lines : List String) :
    ∃ new, Parts s new (asLines lines) (told w s lines) := by
  induction lines generalizing s with
  | nil => exact ⟨[], .rest⟩
  | cons line lines ih =>
    obtain ⟨first, -, complained⟩ := Parts.after (w := w) (s := s) (.complained (line ++ "\n")) rfl
    obtain ⟨new, rest⟩ := ih (s := s.after w (.complained (line ++ "\n")))
    exact ⟨_, complained.trans rest⟩

theorem link_told (lines : List String) : (told w s lines).link = s.link := by
  induction lines generalizing s with
  | nil => rfl
  | cons line lines ih => exact ih.trans (Session.link_after _)

theorem handlers_told (lines : List String) : (told w s lines).handlers = s.handlers := by
  induction lines generalizing s with
  | nil => rfl
  | cons line lines ih => exact ih.trans (Session.handlers_after _)

/-- What the user is told about a failure: what it is, and the statement where one was refused. -/
def Failure.lines (failure : Failure) : List String :=
  ("Error: " ++ failure.message) :: match failure with
    | .query _ sql _ => ["query was: " ++ sql]
    | _ => []

/-- What the user is told where there is no connection. -/
def ConnectionCause.lines (cause : ConnectionCause) (target : ConnectionSettings) : List String :=
  "Error: Could not connect to database." :: ("       " ++ cause.message) ::
    ((connectionHint cause.message target.host target.port).map ("\nHint: " ++ ·)).toList

theorem perform_reportConnection (cause : ConnectionCause) (target : ConnectionSettings) :
    (Run.reportConnection cause target).perform w s = (.ok (), told w s (cause.lines target)) := by
  unfold Run.reportConnection ConnectionCause.lines
  cases connectionHint cause.message target.host target.port <;> rfl

/-! ## Failures that end the program -/

/-- A failure that the user need not be told about. -/
def Failure.isSilent : Failure → Bool
  | .interrupted _ | .targetGone _ => true
  | _ => false

/-- What a failure ends the program with. -/
def Failure.result (failure : Failure) : Except Stop Unit :=
  .error (.failed (if failure.isReported then .exit failure.exitStatus else failure))

/-- What the user is told about a failure that ends the program. -/
def Failure.complaints (failure : Failure) : List String :=
  if failure.isReported && !failure.isSilent then failure.lines else []

theorem perform_endWith (failure : Failure) :
    (endWith failure).perform w s = (failure.result, told w s failure.complaints) := by
  cases failure <;> rfl

/-- A failure that a snapshot sees to itself. -/
def Failure.endsSnapshot : Failure → Bool
  | .query _ _ _ | .sink _ => true
  | _ => false

/-- What a snapshot sees to itself is told to the user. -/
theorem Failure.complaints_of_endsSnapshot {failure : Failure} (h : failure.endsSnapshot = true) :
    failure.complaints = failure.lines := by
  cases failure <;> first | rfl | cases h

theorem perform_endSnapshot (failure : Failure) :
    (endSnapshot failure).perform w s =
      if failure.endsSnapshot then
        (.error (.failed (.exit snapshotFailure)), told w s failure.lines)
      else (.error (.failed failure), s) := by
  cases failure <;> rfl

/-! ## Connections -/

/-- Why there is no connection, if there is none. -/
def Access.denied? (a : Access) (w : Surroundings) : Option ConnectionCause :=
  match w.refusal with
  | some text => some (.refused (Text.trim text))
  | none =>
    if a.readOnly then w.configurationError.map fun text => .notConfigured (Text.trim text)
    else none

/-- The session in which the work over a connection starts. -/
def Access.opened (a : Access) (w : Surroundings) (s : Session) : Session :=
  (s.after w (.dialled (a.dial.parameters w.environment))).after w (.configured a.readOnly)

/-- The session in which the user is told that there is no connection: one that could not be
configured was closed again. -/
def Access.closed (a : Access) (w : Surroundings) (s : Session) : Session :=
  let dialled := s.after w (.dialled (a.dial.parameters w.environment))
  if w.refusal.isSome then dialled else { dialled with link := .closed }.after w .hungUp

theorem Access.opened_early (a : Access) : ∃ new, Happens Event.isEarly s new (a.opened w s) := by
  obtain ⟨_, dialled⟩ := Happens.after (w := w) (s := s) Event.isEarly
    (.dialled (a.dial.parameters w.environment)) rfl fun _ => rfl
  obtain ⟨_, configured⟩ := Happens.after (w := w)
    (s := s.after w (.dialled (a.dial.parameters w.environment))) Event.isEarly
    (.configured a.readOnly) rfl fun _ => rfl
  exact ⟨_, dialled.trans configured⟩

/-- A connection that could not be configured is closed, and nothing was asked over it. -/
theorem Access.closed_parts (a : Access) :
    ∃ earlier later s', Happens Event.isEarly s earlier s' ∧ Parts s' later [] (a.closed w s) := by
  obtain ⟨_, dialled⟩ := Happens.after (w := w) (s := s) Event.isEarly
    (.dialled (a.dial.parameters w.environment)) rfl fun _ => rfl
  unfold closed
  simp only
  split
  · exact ⟨_, [], _, dialled, .rest⟩
  · obtain ⟨later, -, parts⟩ := Parts.after (w := w)
      (s := { s.after w (.dialled (a.dial.parameters w.environment)) with link := .closed })
      .hungUp rfl
    exact ⟨_, later, _, dialled, parts.of_past rfl⟩

theorem Access.link_closed (a : Access) (refusal : w.refusal = none) :
    (a.closed w s).link ≠ .up := by
  unfold closed
  simp only [refusal, Option.isSome_none, Bool.false_eq_true, if_false, Session.link_after]
  simp

theorem Access.perform_connect (a : Access) :
    a.connect.perform w s =
      match a.denied? w with
      | none => (.ok (), a.opened w s)
      | some cause =>
        (.error (.failed (.exit 1)), told w (a.closed w s) (cause.lines a.target)) := by
  have failed : ∀ cause s', (Run.connect a.dial).perform w s =
      (.error (.failed (.connection cause)), s') →
      a.connect.perform w s =
        (.error (.failed (.exit 1)), told w s' (cause.lines a.target)) := by
    intro cause s' h
    rw [Access.connect, Run.perform_rescue, h]
    simp only
    rw [Run.perform_bind_ok (perform_reportConnection cause a.target)]
    rfl
  have dial : a.dial.readOnly = a.readOnly := rfl
  unfold Access.denied? Access.closed
  cases refusal : w.refusal with
  | some text =>
    refine failed _ _ ?_
    simp only [Run.connect, Run.perform_bind, Run.perform_read, Run.perform_note, refusal,
      Run.perform_fail, Option.isSome_some, if_true]
  | none =>
    cases readOnly : a.readOnly with
    | false =>
      rw [Access.connect, Run.perform_rescue]
      simp [Run.connect, Run.perform_bind, refusal, dial, readOnly, Access.opened]
    | true =>
      cases configured : w.configurationError with
      | none =>
        rw [Access.connect, Run.perform_rescue]
        simp [Run.connect, Run.perform_bind, refusal, dial, readOnly, configured, Access.opened]
      | some text =>
        refine failed _ _ ?_
        simp [Run.connect, Run.perform_bind, refusal, dial, readOnly, configured, Run.perform_fail]

/-- The session after the connection was closed, unless it was closed before. -/
def hungUp (w : Surroundings) (s : Session) : Session :=
  if s.link = .up then { s with link := .closed }.after w .hungUp else s

theorem perform_hangUp : Run.hangUp.perform w s = (.ok (), hungUp w s) := by
  unfold Run.hangUp hungUp
  rw [Run.perform_bind, Run.perform_get]
  simp only
  split <;> rfl

theorem hungUp_parts :
    ∃ new, Parts s new [] (hungUp w s) ∧ (s.link = .up → Event.hungUp ∈ new) := by
  unfold hungUp
  split
  · obtain ⟨new, member, parts⟩ :=
      Parts.after (w := w) (s := { s with link := .closed }) .hungUp rfl
    exact ⟨new, parts.of_past rfl, fun _ => member⟩
  · rename_i down
    exact ⟨[], .rest, fun up => absurd up down⟩

theorem link_hungUp : (hungUp w s).link ≠ .up := by
  unfold hungUp
  split
  · rw [Session.link_after]
    simp
  · assumption

/-- The session after the handlers of signals were set. -/
def handled (w : Surroundings) (handlers : Handlers) (s : Session) : Session :=
  { s with handlers := handlers }.after w (.handlersSet handlers)

theorem handled_parts (handlers : Handlers) : ∃ new, Parts s new [] (handled w handlers s) := by
  obtain ⟨new, -, parts⟩ :=
    Parts.after (w := w) (s := { s with handlers := handlers }) (.handlersSet handlers) rfl
  exact ⟨new, parts.of_past rfl⟩

theorem handled_early (handlers : Handlers) :
    ∃ new, Happens Event.isEarly s new (handled w handlers s) := by
  obtain ⟨_, set⟩ := Happens.after (w := w) (s := { s with handlers := handlers })
    Event.isEarly (.handlersSet handlers) rfl fun _ => rfl
  exact ⟨_, set.past, set.kind⟩

theorem handlers_handled (handlers : Handlers) : (handled w handlers s).handlers = handlers :=
  Session.handlers_after _

theorem link_handled (handlers : Handlers) : (handled w handlers s).link = s.link :=
  Session.link_after _

/-- A connection is closed, and then the handlers of before are back. -/
theorem left_parts (handlers : Handlers) :
    ∃ new, Parts s new [] (handled w handlers (hungUp w s)) ∧
      (s.link = .up → Event.hungUp ∈ new) := by
  obtain ⟨_, closing, closes⟩ := hungUp_parts (w := w) (s := s)
  obtain ⟨_, back⟩ := handled_parts (w := w) (s := hungUp w s) handlers
  exact ⟨_, closing.trans back, fun up => List.mem_append_right _ (closes up)⟩

theorem link_left {handlers : Handlers} : (handled w handlers (hungUp w s)).link ≠ .up := by
  rw [link_handled]
  exact link_hungUp

theorem perform_setHandlers (handlers : Handlers) :
    (Run.setHandlers handlers).perform w s = (.ok (), handled w handlers s) := rfl

namespace Run

variable {α : Type}

/-- What comes in the end comes in the end of every run that was not cut short. -/
theorem perform_thenAlways (r : Run α) {last : Run Unit} {after : Session → Session}
    (total : ∀ s, last.perform w s = (.ok (), after s)) :
    (thenAlways r last).perform w s =
      match r.perform w s with
      | (.error .unfinished, s') => (.error .unfinished, s')
      | (result, s') => (result, after s') := by
  rw [thenAlways, perform_bind, perform_rescue]
  rcases r.perform w s with ⟨(failure | -) | a, s'⟩
  · simp only
    rw [perform_bind_ok (total s')]
    rfl
  · rfl
  · simp only
    rw [perform_bind_ok (total s')]
    rfl

theorem perform_withHandlers (handlers : Handlers) (r : Run α) :
    (withHandlers handlers r).perform w s =
      match r.perform w (handled w handlers s) with
      | (.error .unfinished, s') => (.error .unfinished, s')
      | (result, s') => (result, handled w s.handlers s') := by
  rw [withHandlers, perform_bind, perform_get]
  simp only
  rw [perform_bind_ok (perform_setHandlers handlers)]
  exact perform_thenAlways r fun s' => perform_setHandlers s.handlers

end Run

/-- Without a connection the user is told why; with one, the work is done and the connection is
closed. Then the handlers of before are back. -/
theorem Access.perform_use (a : Access) (work : Run Unit) :
    (a.use work).perform w s =
      match a.denied? w with
      | some cause =>
        (.error (.failed (.exit 1)), handled w s.handlers
          (told w (a.closed w (handled w (.forRun a.watchResize) s)) (cause.lines a.target)))
      | none =>
        match work.perform w (a.opened w (handled w (.forRun a.watchResize) s)) with
        | (.error .unfinished, s') => (.error .unfinished, s')
        | (result, s') => (result, handled w s.handlers (hungUp w s')) := by
  rw [Access.use, Run.perform_withHandlers, Run.perform_bind, a.perform_connect]
  cases a.denied? w with
  | some cause => rfl
  | none =>
    simp only
    rw [Run.perform_thenAlways work fun s' => perform_hangUp]
    rcases work.perform w _ with ⟨(failure | -) | _, s'⟩ <;> rfl

/-- Does the work of a job: a snapshot tells the user about some of its failures itself. -/
theorem Job.perform_work {u : Utility} (j : Job u) :
    j.work.perform w s =
      match j.body.perform w s with
      | (.error (.failed failure), s') =>
        if u = .snapshot ∧ failure.endsSnapshot = true then
          (.error (.failed (.exit snapshotFailure)), told w s' failure.lines)
        else (.error (.failed failure), s')
      | ended => ended := by
  unfold work
  split
  · rename_i snapshot
    rw [Run.perform_rescue]
    rcases j.body.perform w s with ⟨(failure | -) | a, s'⟩
    · simp only [perform_endSnapshot, snapshot, true_and]
    · rfl
    · rfl
  · rename_i other
    rcases j.body.perform w s with ⟨(failure | -) | a, s'⟩
    · simp [other]
    · rfl
    · rfl

end PgVitals
