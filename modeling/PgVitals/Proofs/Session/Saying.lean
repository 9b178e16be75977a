import PgVitals.Proofs.Session.Answers
import PgVitals.Proofs.Session.Following
import PgVitals.Proofs.Session.Objects
/-!
# What a run says

A run talks to its server and to standard output. Statements, with their answers, and output are
what it says. Which sequences of these a run can bring forth, and how it ends with each of them, is
its grammar: a relation that is put together from those of its parts, one rule for each way of
building a run. All a grammar has to know of the session is whether the connection is open.

* `Says` relates two sessions by the words said between them, and `openAfter` tells from the words
  whether an open connection is still open.
* `Grammar` is a relation of words and outcomes, and `Speaks` says of a run that it keeps to one,
  for every session and all surroundings. `Speaks.bind` continues the words that came before;
  `Speaks.rescue` and `Speaks.cleanup` take up the words of what failed.
* `Sent` lists how a statement can end, and `Speaks.fetch_bind`, `Speaks.rows_bind` and
  `Speaks.execute_bind` are the rules for what follows one.
* `Flagged` is the second half of `Speaks`: a run that was interrupted by the user has found the
  flag set.

A grammar says what words there can be, and not that all of them can occur. Log records and pauses
are no words, so two runs that differ in these only have the same grammar.
-/

namespace PgVitals

open PgVitals.Text

/-! ## Words -/

/-- Whether an event is a statement or output. -/
def Event.isSaid : Event → Bool
  | asked _ _ => true
  | printed _ => true
  | _ => false

/-- What was said in some events, newest first; what was said is listed oldest first. -/
def saidIn (events : List Event) : List Event := (events.filter Event.isSaid).reverse

/-- What was said in a session. -/
def Session.said (s : Session) : List Event := saidIn s.past

theorem saidIn_append (later earlier : List Event) :
    saidIn (later ++ earlier) = saidIn earlier ++ saidIn later := by
  simp [saidIn]

/-- Signals say nothing. -/
theorem saidIn_arrived (signals : List Signal) :
    saidIn (signals.map Event.arrived).reverse = [] := by
  simp [saidIn, List.filter_eq_nil_iff, Event.isSaid]

/-- From `s` to `s'` the words were said. -/
structure Says (w : Surroundings) (s : Session) (words : List Event) (s' : Session) : Prop where
  passage : ∃ new, Passage w (fun _ => True) s new s' ∧ saidIn new = words

namespace Says

variable {w : Surroundings} {s s' s'' : Session} {words more : List Event}

theorem rest : Says w s [] s := ⟨⟨[], .rest, rfl⟩⟩

theorem trans (h₁ : Says w s words s') (h₂ : Says w s' more s'') :
    Says w s (words ++ more) s'' := by
  obtain ⟨new, first, rfl⟩ := h₁.passage
  obtain ⟨later, second, rfl⟩ := h₂.passage
  exact ⟨⟨later ++ new, first.trans second, saidIn_append later new⟩⟩

theorem held (change : Holdings → Holdings) :
    Says w s [] { s with holdings := change s.holdings } :=
  ⟨⟨[], .held change, rfl⟩⟩

/-- A note says no more than itself. -/
theorem note (event : Event) (h : event.isNote = true) :
    Says w s (saidIn [event]) (s.after w event) := by
  obtain ⟨signals, quiet⟩ := Stretch.note (w := w) (s := s) event h
  refine ⟨⟨_, quiet.widen.toPassage, ?_⟩⟩
  rw [saidIn_append, saidIn_arrived, List.append_nil]

theorem printed (text : String) : Says w s [.printed text] (s.after w (.printed text)) :=
  note (.printed text) rfl

/-- A statement and its answer are one word. -/
theorem answered (statement : Statement) :
    Says w s [.asked statement (w.reply s.past statement)] (s.answered w statement) := by
  obtain ⟨due, stretch⟩ := Stretch.answered (w := w) (s := s) statement
  refine ⟨⟨_, stretch.toPassage.mono fun _ _ => trivial, ?_⟩⟩
  rw [saidIn_append, saidIn_arrived, List.append_nil]
  rfl

theorem said (h : Says w s words s') : s'.said = s.said ++ words := by
  obtain ⟨new, passage, rfl⟩ := h.passage
  rw [Session.said, passage.past, saidIn_append]
  rfl

/-- The connection is lost over an answer, and only so. -/
theorem link (h : Says w s words s') :
    s'.link = if words.any Event.closes then .lost else s.link := by
  obtain ⟨new, passage, rfl⟩ := h.passage
  have closing : (saidIn new).any Event.closes = new.any Event.closes := by
    rw [saidIn, List.any_reverse, List.any_filter]
    refine List.any_congr rfl fun event => ?_
    cases event <;> simp [Event.isSaid, Event.closes]
  rw [passage.link, closing]

/-- The wish to end is never taken back. -/
theorem aware (h : Says w s words s') (aware : s.flags.shutdown = true) :
    s'.flags.shutdown = true := by
  obtain ⟨new, passage, -⟩ := h.passage
  rw [passage.flag, ← List.append_nil new]
  exact Session.flagged_of_append aware

end Says

/-! ## Grammars -/

/-- Whether an open connection is open after some words. -/
def openAfter (up : Bool) (words : List Event) : Bool := up && !words.any Event.closes

theorem openAfter_append (up : Bool) (words more : List Event) :
    openAfter up (words ++ more) = openAfter (openAfter up words) more := by
  simp [openAfter, Bool.and_assoc]

/-- What was said decides whether an open connection is still open. -/
theorem Says.openAfter_eq {w : Surroundings} {s s' : Session} {words : List Event}
    (spoken : Says w s words s') :
    openAfter (decide (s.link = .up)) words = decide (s'.link = .up) := by
  rw [spoken.link, openAfter]
  cases words.any Event.closes <;> simp

/-- A grammar: some words, and how a run ends with them. -/
abbrev Grammar (α : Type) := List Event → Except Stop α → Prop

/-- What it means for a run that a statement is refused. -/
def Reply.meaning (reply : Reply) (statement : Statement) (error : DriverError) : Failure :=
  Run.meaning statement.sql error (if reply.closes then .lost else .up)

/-- A statement and its answer: it is not sent over a closed connection, it brings a result, or it
is refused. -/
inductive Sent (statement : Statement) : Bool → Grammar ResultSet
  | unsent {link : Link} (down : link ≠ .up) :
      Sent statement false []
        (.error (.failed (Run.meaning statement.sql connectionClosed link)))
  | accepted {reply : Reply} {set : ResultSet} (brings : reply.set? = some set) :
      Sent statement true [.asked statement reply] (.ok set)
  | refused {reply : Reply} {error : DriverError} (refuses : reply.outcome = .refused error) :
      Sent statement true [.asked statement reply]
        (.error (.failed (reply.meaning statement error)))

/-- A reply with a result set is no refusal. -/
theorem Reply.set?_of_refused {reply : Reply} {error : DriverError}
    (refuses : reply.outcome = .refused error) : reply.set? = none := by
  rw [Reply.set?, refuses]

theorem Reply.accepts_of_set? {reply : Reply} {set : ResultSet} (h : reply.set? = some set) :
    reply.accepts = true := by
  unfold Reply.set? at h
  unfold Reply.accepts
  split at h
  · simp_all
  · simp_all
  · cases h

namespace Run

variable {α β : Type}

/-- The interrupt of a run that found the flag set. -/
def Flagged (result : Except Stop α) : Prop := result = .error (.failed (.interrupted .signal))

/-- Over an open connection, or without one, whatever a run says and however it ends is according to
a grammar; and where it is interrupted by the user, the flag says so. -/
def Speaks (up : Bool) (r : Run α) (G : Grammar α) : Prop :=
  ∀ w s, decide (s.link = .up) = up →
    ∃ words, Says w s words (r.perform w s).2 ∧ G words (r.perform w s).1 ∧
      (Flagged (r.perform w s).1 → (r.perform w s).2.flags.shutdown = true)

/-- An error is classified without a word. -/
theorem classify_spoken (w : Surroundings) (s : Session) (sql : String) (error : DriverError) :
    ∃ s', Says w s [] s' ∧ (classify sql error : Run α).perform w s =
      (.error (.failed (meaning sql error s.link)), s') := by
  by_cases cancelled : error.kind = .cancelled
  · exact ⟨s, .rest, by simp [classify, meaning, cancelled]⟩
  by_cases opened : s.link = .up
  · exact ⟨_, Says.note (.logged .debug ("query failed: " ++ error.reason)) rfl,
      by simp [classify, meaning, cancelled, opened, perform_bind]⟩
  · exact ⟨s, .rest, by simp [classify, meaning, cancelled, opened, perform_bind]⟩

/-- Where the handler of log records passes over what it cannot write, a text is logged or left out,
and the run goes on. -/
theorem perform_logWritten (passes : w.logRaises = false) (level : LogLevel)
    (text : Except Fault String) :
    ∃ s', Says w s [] s' ∧ (logWritten level text).perform w s = (.ok (), s') := by
  have looked : ∃ shown, (isLogged level).perform w s = (.ok shown, s) := by
    rw [isLogged, perform_bind_ok perform_get]
    cases s.past.findSome? Event.leastShown? <;> exact ⟨_, rfl⟩
  obtain ⟨shown, looked⟩ := looked
  unfold logWritten
  rw [perform_bind_ok looked]
  cases shown with
  | false => exact ⟨s, .rest, rfl⟩
  | true =>
    cases text with
    | ok text => exact ⟨_, .note (.logged level text) rfl, rfl⟩
    | error fault =>
      refine ⟨s, .rest, ?_⟩
      show (read >>= fun w => if w.logRaises = true then Run.fail (.fault fault)
        else pure ()).perform w s = _
      rw [perform_bind_ok perform_read, passes]
      rfl

/-- No error of the driver means that the user wants the end. -/
theorem meaning_ne_signal (sql : String) (error : DriverError) (link : Link) :
    meaning sql error link ≠ .interrupted .signal := by
  unfold meaning
  split
  · simp
  · split <;> simp

namespace Speaks

variable {up : Bool} {r : Run α} {G H : Grammar α}

theorem mono (h : Speaks up r G) (le : ∀ words result, G words result → H words result) :
    Speaks up r H := by
  intro w s opened
  obtain ⟨words, spoken, speaks, aware⟩ := h w s opened
  exact ⟨words, spoken, le _ _ speaks, aware⟩

theorem pure {a : α} (h : G [] (.ok a)) : Speaks up (Pure.pure a) G :=
  fun _ _ _ => ⟨[], .rest, h, fun same => by cases same⟩

theorem fail {failure : Failure} (other : failure ≠ .interrupted .signal)
    (h : G [] (.error (.failed failure))) : Speaks up (Run.fail failure) G :=
  fun _ _ _ => ⟨[], .rest, h, fun same => absurd (Stop.failed.inj (Except.error.inj same)) other⟩

theorem fail_bind {failure : Failure} {f : α → Run β} {K : Grammar β}
    (other : failure ≠ .interrupted .signal) (h : K [] (.error (.failed failure))) :
    Speaks up (Run.fail failure >>= f) K :=
  fail other h

/-- What follows continues the words that came before, over a connection as these have left it. -/
theorem bind {f : α → Run β} {K : Grammar β} (hr : Speaks up r G)
    (stops : ∀ words stop, G words (.error stop) → K words (.error stop))
    (goes : ∀ words a, G words (.ok a) →
      Speaks (openAfter up words) (f a) fun more result => K (words ++ more) result) :
    Speaks up (r >>= f) K := by
  intro w s opened
  obtain ⟨words, spoken, speaks, aware⟩ := hr w s opened
  rw [perform_bind]
  rcases h : r.perform w s with ⟨stop | a, s'⟩ <;> rw [h] at spoken speaks aware
  · exact ⟨words, spoken, stops _ _ speaks, fun same => aware (by cases same; rfl)⟩
  · obtain ⟨more, rest, continued, wish⟩ :=
      goes words a speaks w s' (by rw [← opened, spoken.openAfter_eq])
    exact ⟨words ++ more, spoken.trans rest, continued, wish⟩

/-- A handler takes up the words of what failed. -/
theorem rescue {handle : Failure → Run α} (hr : Speaks up r G)
    (returns : ∀ words a, G words (.ok a) → H words (.ok a))
    (unfinished : ∀ words, G words (.error .unfinished) → H words (.error .unfinished))
    (fails : ∀ words failure, G words (.error (.failed failure)) →
      Speaks (openAfter up words) (handle failure) fun more result => H (words ++ more) result) :
    Speaks up (Run.rescue r handle) H := by
  intro w s opened
  obtain ⟨words, spoken, speaks, aware⟩ := hr w s opened
  rw [perform_rescue]
  rcases h : r.perform w s with ⟨(failure | -) | a, s'⟩ <;> rw [h] at spoken speaks
  · obtain ⟨more, rest, continued, wish⟩ :=
      fails words failure speaks w s' (by rw [← opened, spoken.openAfter_eq])
    exact ⟨words ++ more, spoken.trans rest, continued, wish⟩
  · exact ⟨words, spoken, unfinished _ speaks, fun same => by cases same⟩
  · exact ⟨words, spoken, returns _ _ speaks, fun same => by cases same⟩

/-- What is done because of a failure comes behind the words of what failed, and does not hide the
failure. -/
theorem cleanup {last : Run Unit} {C : List Event → Prop} (hr : Speaks up r G)
    (hl : ∀ left, Speaks left last fun words result => C words ∧ result = .ok ()) :
    Speaks up (Run.rescue r fun failure => do last; Run.fail failure) fun words result =>
      ∃ said closing, words = said ++ closing ∧ G said result ∧
        (closing = [] ∨ C closing ∧ ∃ failure, result = .error (.failed failure)) := by
  intro w s opened
  obtain ⟨words, spoken, speaks, aware⟩ := hr w s opened
  rw [perform_rescue]
  rcases h : r.perform w s with ⟨(failure | -) | a, s'⟩ <;> rw [h] at spoken speaks aware
  · obtain ⟨closing, rest, ⟨cleaned, returned⟩, -⟩ := hl _ w s' rfl
    rcases hc : last.perform w s' with ⟨result, s''⟩
    rw [hc] at rest returned
    obtain rfl : result = .ok () := returned
    simp only
    rw [perform_bind_ok hc]
    exact ⟨_, spoken.trans rest, ⟨words, closing, rfl, speaks, .inr ⟨cleaned, failure, rfl⟩⟩,
      fun same => rest.aware (aware same)⟩
  · exact ⟨words, spoken, ⟨words, [], (List.append_nil _).symm, speaks, .inl rfl⟩, aware⟩
  · exact ⟨words, spoken, ⟨words, [], (List.append_nil _).symm, speaks, .inl rfl⟩, aware⟩

/-- A run that changes neither the connection nor what was said leaves the rest to what follows. -/
theorem silently {f : α → Run β} {K : Grammar β} {a : α}
    (silent : ∀ w s, ∃ s', Says w s [] s' ∧ r.perform w s = (.ok a, s'))
    (goes : Speaks up (f a) K) : Speaks up (r >>= f) K := by
  intro w s opened
  obtain ⟨s', spoken, returned⟩ := silent w s
  rw [perform_bind_ok returned]
  have still : decide (s'.link = .up) = up := by
    rw [← opened, ← spoken.openAfter_eq]
    simp [openAfter]
  obtain ⟨more, rest, continued, wish⟩ := goes w s' still
  exact ⟨more, spoken.trans rest, continued, wish⟩

theorem ofFault_bind {e : Except Fault α} {f : α → Run β} {K : Grammar β}
    (fault : ∀ fault, e = .error fault → K [] (.error (.failed (.fault fault))))
    (goes : ∀ a, e = .ok a → Speaks up (f a) K) : Speaks up (Run.ofFault e >>= f) K := by
  cases e with
  | ok a => exact goes a rfl
  | error cause => exact fail (by simp) (fault cause rfl)

theorem ofExcept_bind {e : Except Failure α} {f : α → Run β} {K : Grammar β}
    (failed : ∀ failure, e = .error failure →
      failure ≠ .interrupted .signal ∧ K [] (.error (.failed failure)))
    (goes : ∀ a, e = .ok a → Speaks up (f a) K) : Speaks up (Run.ofExcept e >>= f) K := by
  cases e with
  | ok a => exact goes a rfl
  | error failure => exact fail (failed failure rfl).1 (failed failure rfl).2

theorem firstCell_bind {rows : List (List Value)} {f : Value → Run β} {K : Grammar β}
    (none : K [] (.error (.failed (.fault .missingItem))))
    (goes : ∀ cell cells rest, rows = (cell :: cells) :: rest → Speaks up (f cell) K) :
    Speaks up (Run.firstCell rows >>= f) K := by
  unfold Run.firstCell
  split
  · exact goes _ _ _ rfl
  · exact fail (by simp) none

/-- A run that reads what is there, before it does something. -/
theorem get_bind {f : Session → Run β} {K : Grammar β} (goes : ∀ s, Speaks up (f s) K) :
    Speaks up (MonadState.get >>= f) K :=
  fun w s opened => goes s w s opened

theorem read_bind {f : Surroundings → Run β} {K : Grammar β} (goes : ∀ w, Speaks up (f w) K) :
    Speaks up (MonadReader.read >>= f) K :=
  fun w s opened => goes w w s opened

theorem log {level : LogLevel} {text : String} {K : Grammar Unit} (h : K [] (.ok ())) :
    Speaks up (Run.log level text) K :=
  fun _ _ _ => ⟨_, .note (.logged level text) rfl, h, fun same => by cases same⟩

theorem log_bind {level : LogLevel} {text : String} {f : Unit → Run β} {K : Grammar β}
    (goes : Speaks up (f ()) K) : Speaks up (Run.log level text >>= f) K :=
  silently (fun _ _ => ⟨_, .note (.logged level text) rfl, rfl⟩) goes

theorem hold_bind {change : Holdings → Holdings} {f : Unit → Run β} {K : Grammar β}
    (goes : Speaks up (f ()) K) : Speaks up (Run.hold change >>= f) K :=
  silently (fun _ _ => ⟨_, .held change, rfl⟩) goes

theorem sleep {seconds : Value} {K : Grammar Unit} (h : K [] (.ok ())) :
    Speaks up (Run.sleep seconds) K :=
  fun _ _ _ => ⟨_, .note (.slept seconds) rfl, h, fun same => by cases same⟩

theorem printLine_bind {text : String} {f : Unit → Run β} {K : Grammar β}
    (goes : Speaks up (f ()) fun more result => K (.printed (text ++ "\n") :: more) result) :
    Speaks up (Run.printLine text >>= f) K := by
  intro w s opened
  have spoken := Says.note (w := w) (s := s) (.printed (text ++ "\n")) rfl
  have still : decide ((s.after w (.printed (text ++ "\n"))).link = .up) = up := by
    rw [← opened, ← spoken.openAfter_eq]
    cases decide (s.link = .up) <;> rfl
  obtain ⟨more, rest, continued, wish⟩ := goes w _ still
  exact ⟨_ :: more, spoken.trans rest, continued, wish⟩

theorem printValue_bind {label : String} {v : Value} {f : Unit → Run β} {K : Grammar β}
    (fault : ∀ fault, K [] (.error (.failed (.fault fault))))
    (goes : Speaks up (f ()) fun more result =>
      K (.printed (label ++ v.shown ++ "\n") :: more) result) :
    Speaks up (Run.printValue label v >>= f) K := by
  unfold Run.printValue
  rw [bind_assoc]
  refine ofFault_bind (fun cause _ => fault cause) fun text written => ?_
  obtain rfl := Value.written_eq written
  exact printLine_bind goes

/-- A statement says itself and its answer. -/
theorem fetch (statement : Statement) : Speaks up (Run.fetch statement) (Sent statement up) := by
  intro w s opened
  have told : ∀ (error : DriverError) (link : Link),
      ¬ Flagged (.error (.failed (meaning statement.sql error link)) : Except Stop ResultSet) :=
    fun error link same =>
      meaning_ne_signal statement.sql error link (Stop.failed.inj (Except.error.inj same))
  by_cases open_ : s.link = .up
  · obtain rfl : true = up := by rw [← opened, open_]; rfl
    have answered := Says.answered (w := w) (s := s) statement
    rw [Run.fetch, perform_rescue, perform_send_up open_]
    rcases outcome : (w.reply s.past statement).outcome with _ | set | error
    · exact ⟨_, answered, .accepted (by rw [Reply.set?, outcome]), fun same => by cases same⟩
    · exact ⟨_, answered, .accepted (by rw [Reply.set?, outcome]), fun same => by cases same⟩
    · obtain ⟨s', spoken, classified⟩ := classify_spoken (α := ResultSet) w (s.answered w statement)
        statement.sql error
      simp only
      rw [classified, Session.link_answered, open_]
      refine ⟨_, answered.trans spoken, ?_, fun same => absurd same (told error _)⟩
      rw [List.append_nil]
      exact .refused outcome
  · obtain rfl : false = up := by rw [← opened, decide_eq_false open_]
    obtain ⟨s', spoken, classified⟩ := classify_spoken (α := ResultSet) w s statement.sql
      connectionClosed
    rw [Run.fetch, perform_rescue, perform_send_down open_]
    simp only
    rw [classified]
    exact ⟨_, spoken, .unsent open_, fun same => absurd same (told _ _)⟩

/-- What follows a statement depends on what it brought. -/
theorem fetch_bind {statement : Statement} {f : ResultSet → Run β} {K : Grammar β}
    (stops : ∀ words stop, Sent statement up words (.error stop) → K words (.error stop))
    (goes : ∀ reply set, up = true → reply.set? = some set →
      Speaks (!reply.closes) (f set) fun more result => K (.asked statement reply :: more) result) :
    Speaks up (Run.fetch statement >>= f) K := by
  refine (fetch statement).bind stops fun words set sent => ?_
  cases sent with
  | @accepted reply set brings =>
    have left : openAfter true [.asked statement reply] = !reply.closes := by
      simp [openAfter, Event.closes]
    rw [left]
    exact goes reply set rfl brings

theorem rows_bind {statement : Statement} {f : List (List Value) → Run β} {K : Grammar β}
    (stops : ∀ words stop, Sent statement up words (.error stop) → K words (.error stop))
    (goes : ∀ reply set, up = true → reply.set? = some set →
      Speaks (!reply.closes) (f set.rows) fun more result =>
        K (.asked statement reply :: more) result) :
    Speaks up (Run.rows statement >>= f) K := by
  rw [Run.rows, bind_assoc]
  exact fetch_bind stops goes

/-- A query of which a failure is taken up. -/
theorem rows_rescue {statement : Statement} {f : List (List Value) → β}
    {handle : Failure → Run β} {K : Grammar β}
    (brings : ∀ reply set, up = true → reply.set? = some set →
      K [.asked statement reply] (.ok (f set.rows)))
    (fails : ∀ words failure, Sent statement up words (.error (.failed failure)) →
      Speaks (openAfter up words) (handle failure) fun more result => K (words ++ more) result) :
    Speaks up (Run.rescue (f <$> Run.rows statement) handle) K := by
  have asked : Speaks up (f <$> Run.rows statement) fun words result =>
      (∃ failure, Sent statement up words (.error (.failed failure)) ∧
        result = .error (.failed failure)) ∨
      ∃ reply set, up = true ∧ reply.set? = some set ∧ words = [.asked statement reply] ∧
        result = .ok (f set.rows) := by
    rw [← bind_pure_comp]
    refine rows_bind (fun words stop sent => .inl ?_) fun reply set opened found =>
      .pure (.inr ⟨reply, set, opened, found, rfl, rfl⟩)
    cases sent with
    | unsent down => exact ⟨_, .unsent down, rfl⟩
    | refused refuses => exact ⟨_, .refused refuses, rfl⟩
  refine asked.rescue (fun words a h => ?_) (fun words h => ?_) fun words failure h => ?_
  · obtain ⟨failure, -, same⟩ | ⟨reply, set, opened, found, rfl, same⟩ := h
    · cases same
    · cases same
      exact brings reply set opened found
  · obtain ⟨failure, -, same⟩ | ⟨reply, set, -, -, -, same⟩ := h <;> cases same
  · obtain ⟨failure, sent, same⟩ | ⟨reply, set, -, -, -, same⟩ := h
    · cases same
      exact fails words failure sent
    · cases same

/-- A query of which a failure is given another name, or another answer, before the run goes on. -/
theorem rows_rescue_bind {statement : Statement} {handle : Failure → Run (List (List Value))}
    {f : List (List Value) → Run β} {K : Grammar β}
    (fails : ∀ words failure, Sent statement up words (.error (.failed failure)) →
      Speaks (openAfter up words) (handle failure >>= f) fun more result =>
        K (words ++ more) result)
    (goes : ∀ reply set, up = true → reply.set? = some set →
      Speaks (!reply.closes) (f set.rows) fun more result =>
        K (.asked statement reply :: more) result) :
    Speaks up (Run.rescue (Run.rows statement) handle >>= f) K := by
  intro w s opened
  obtain ⟨words, spoken, sent, -⟩ := fetch statement w s opened
  have left := spoken.openAfter_eq
  rw [opened] at left
  rw [perform_bind, perform_rescue, Run.rows, perform_bind]
  generalize (Run.fetch statement).perform w s = asked at spoken sent left
  rcases asked with ⟨(failure | -) | set, s'⟩
  · obtain ⟨more, rest, continued, wish⟩ := fails words failure sent w s' left.symm
    rw [perform_bind] at rest continued wish
    exact ⟨words ++ more, spoken.trans rest, continued, wish⟩
  · cases sent
  · cases sent with
    | @accepted reply _ brings =>
      have still : openAfter true [.asked statement reply] = !reply.closes := by
        simp [openAfter, Event.closes]
      obtain ⟨more, rest, continued, wish⟩ :=
        goes reply set rfl brings w s' (left.symm.trans still)
      exact ⟨_ :: more, spoken.trans rest, continued, wish⟩

theorem execute_bind {sql : String} {f : Unit → Run β} {K : Grammar β}
    (stops : ∀ words stop, Sent (.plain sql) up words (.error stop) → K words (.error stop))
    (goes : ∀ reply, up = true → reply.accepts = true →
      Speaks (!reply.closes) (f ()) fun more result =>
        K (.asked (.plain sql) reply :: more) result) :
    Speaks up (Run.execute sql >>= f) K := by
  rw [Run.execute, bind_assoc]
  exact fetch_bind stops fun reply set opened brings =>
    goes reply opened (Reply.accepts_of_set? brings)

end Speaks

end Run

end PgVitals
