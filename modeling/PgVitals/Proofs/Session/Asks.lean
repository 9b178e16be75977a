import PgVitals.Proofs.Session.Stretch
/-!
# What a run asks

The ways in which a statement can end, what each means for the run, and which statements a run may
send at all. A run *asks* a set of statements when every path through it comes to an end and is a
stretch with no other statements in it. Runs are composed of runs that do so, one rule for each way
of building a run.

* `Run.Fetched` lists how a statement can end: it is not sent over a closed connection, it is
  accepted, or it is refused, where a log record may be left behind. `Run.fetched` says that there
  is no other way, and `Run.meaning` what a refusal means for the run.
* `Run.Fetched.sent` and `Run.Fetched.down` are what later proofs use of it: over an open connection
  the statement comes first and nothing is sent after it; over a closed one nothing happens but the
  failure.
* `Asks` is closed under `Asks.bind`, `Asks.rescue` and `Asks.forM`, so for a function of the
  program the proof follows its text.

A run that asks some statements leaves the files alone and keeps what it has to remove from the
server; `Asks.hold` is about what it has there besides. Runs that write files are outside of this;
for them there is `Proofs/Session/Following`. That every path comes to an end is part of `Asks`, so
it cannot be said of loops that go on as long as the server answers.
-/

namespace PgVitals

open PgVitals.Text

/-- Whether the server did what the statement says. -/
def Reply.accepts (r : Reply) : Bool :=
  match r.outcome with
  | .refused _ => false
  | _ => true

theorem Reply.accepts_refused {reply : Reply} {error : DriverError}
    (h : reply.outcome = .refused error) : reply.accepts = false := by
  rw [Reply.accepts, h]

namespace Run

variable {α β : Type} {w : Surroundings} {s s' : Session} {A B : Statement → Prop}

/-! ## How a statement ends -/

/-- What an error of the driver means for the run, with the connection as it is afterwards. -/
def meaning (sql : String) (error : DriverError) (link : Link) : Failure :=
  if error.kind = .cancelled then .interrupted .cancelledQuery
  else if link ≠ .up then .connection (.lost (trim error.text))
  else .query error.reason sql error.code

theorem meaning_isReported (sql : String) (error : DriverError) (link : Link) :
    (meaning sql error link).isReported = true := by
  unfold meaning
  split
  · rfl
  · split <;> rfl

/-- The ways a statement can end: it is not sent over a closed connection, it is accepted, or it is
refused, which may leave a log record behind. -/
inductive Fetched (w : Surroundings) (s : Session) (statement : Statement) :
    Except Stop ResultSet → Session → Prop
  | unsent (down : s.link ≠ .up) :
      Fetched w s statement
        (.error (.failed (meaning statement.sql connectionClosed s.link))) s
  | accepted (up : s.link = .up) (set : ResultSet)
      (accepts : (w.reply s.past statement).accepts = true) :
      Fetched w s statement (.ok set) (s.answered w statement)
  | refused (up : s.link = .up) (error : DriverError)
      (refuses : (w.reply s.past statement).outcome = .refused error) {new : List Event}
      {s' : Session} (logs : Quiet w (s.answered w statement) new s') :
      Fetched w s statement
        (.error (.failed (meaning statement.sql error (s.answered w statement).link))) s'

/-- Every error of the driver is classified, over whatever connection. -/
theorem perform_classify (sql : String) (error : DriverError) :
    ∃ new s', Quiet w s new s' ∧
      (classify sql error : Run α).perform w s = (.error (.failed (meaning sql error s.link)), s') ∧
      (s.link ≠ .up → s' = s) := by
  by_cases hc : error.kind = .cancelled
  · refine ⟨[], s, .rest, ?_, fun _ => rfl⟩
    simp [classify, meaning, hc]
  by_cases hl : s.link = .up
  · obtain ⟨signals, hn⟩ := Stretch.note (w := w) (s := s)
      (.logged .debug ("query failed: " ++ error.reason)) rfl
    refine ⟨_, _, hn, ?_, fun h => absurd hl h⟩
    simp [classify, meaning, hc, hl, perform_bind]
  · refine ⟨[], s, .rest, ?_, fun _ => rfl⟩
    simp [classify, meaning, hc, hl, perform_bind]

theorem perform_send_down (down : s.link ≠ .up) (statement : Statement) :
    (send statement).perform w s = (.error (.failed (.driver connectionClosed)), s) := by
  simp [send, perform_bind, down]

theorem perform_send_up (up : s.link = .up) (statement : Statement) :
    (send statement).perform w s =
      (match (w.reply s.past statement).outcome with
        | .done => .ok .empty
        | .result set => .ok set
        | .refused error => .error (.failed (.driver error)), s.answered w statement) := by
  simp only [send, perform_bind, perform_get, perform_read, up, ne_eq, not_true_eq_false, if_false,
    perform_set]
  split <;> simp_all

theorem fetched (w : Surroundings) (s : Session) (statement : Statement) :
    Fetched w s statement ((fetch statement).perform w s).1 ((fetch statement).perform w s).2 := by
  by_cases up : s.link = .up
  · have hsend := perform_send_up (w := w) up statement
    rcases ho : (w.reply s.past statement).outcome with _ | set | error
    · have h : (fetch statement).perform w s = (.ok .empty, s.answered w statement) := by
        rw [fetch, perform_rescue, hsend, ho]
      rw [h]
      exact .accepted up _ (by simp [Reply.accepts, ho])
    · have h : (fetch statement).perform w s = (.ok set, s.answered w statement) := by
        rw [fetch, perform_rescue, hsend, ho]
      rw [h]
      exact .accepted up _ (by simp [Reply.accepts, ho])
    · obtain ⟨new, s', hn, hp, -⟩ := perform_classify (α := ResultSet) (w := w)
        (s := s.answered w statement) statement.sql error
      have h : (fetch statement).perform w s =
          (.error (.failed (meaning statement.sql error (s.answered w statement).link)), s') := by
        rw [fetch, perform_rescue, hsend, ho]
        exact hp
      rw [h]
      exact .refused up error ho hn
  · obtain ⟨new, s', -, hp, hs⟩ := perform_classify (α := ResultSet) (w := w) (s := s)
      statement.sql connectionClosed
    rw [hs up] at hp
    have h : (fetch statement).perform w s =
        (.error (.failed (meaning statement.sql connectionClosed s.link)), s) := by
      rw [fetch, perform_rescue, perform_send_down up]
      exact hp
    rw [h]
    exact .unsent up

/-- A statement over an open connection: it is sent and answered first, and nothing is sent after
it. -/
theorem Fetched.sent {statement : Statement} {result : Except Stop ResultSet}
    (h : Fetched w s statement result s') (up : s.link = .up) :
    ∃ quiet, Stretch w (· = statement) s
        (quiet ++ [.asked statement (w.reply s.past statement)]) s' ∧
      Silent quiet := by
  obtain ⟨due, ha⟩ := Stretch.answered (w := w) (s := s) statement
  cases h with
  | unsent down => exact absurd up down
  | accepted => exact ⟨_, ha, .arrived _⟩
  | @refused _ error _ new _ logs =>
    have h := ha.trans logs.widen
    rw [← List.append_assoc] at h
    exact ⟨_, h, logs.silent.append (.arrived _)⟩

/-- Over a closed connection nothing happens but the failure. -/
theorem Fetched.down {statement : Statement} {result : Except Stop ResultSet}
    (h : Fetched w s statement result s') (down : s.link ≠ .up) :
    s' = s ∧ ∃ stop, result = .error stop := by
  cases h with
  | unsent => exact ⟨rfl, _, rfl⟩
  | accepted up | refused up => exact absurd up down

/-- Where the result is not needed, only how the statement ended is passed on. -/
theorem perform_execute (sql : String) :
    (execute sql).perform w s =
      (((fetch (.plain sql)).perform w s).1.map fun _ => (),
        ((fetch (.plain sql)).perform w s).2) := by
  rw [execute, perform_bind]
  rcases (fetch (.plain sql)).perform w s with ⟨stop | set, s'⟩ <;> rfl

/-! ## Asking -/

/-- Every path of `r` comes to an end, and is a stretch in which nothing is asked but statements of
`A`. -/
structure Asks (A : Statement → Prop) (r : Run α) : Prop where
  stretch : ∀ w s, ∃ new, Stretch w A s new (r.perform w s).2
  ends : ∀ w s, (r.perform w s).1 ≠ .error .unfinished

namespace Asks

theorem pure (a : α) : Asks A (Pure.pure a : Run α) :=
  ⟨fun _ _ => ⟨[], .rest⟩, fun _ _ => nofun⟩

theorem fail (failure : Failure) : Asks A (Run.fail failure : Run α) :=
  ⟨fun _ _ => ⟨[], .rest⟩, fun _ _ => by simp⟩

theorem get : Asks A (MonadState.get : Run Session) :=
  ⟨fun _ _ => ⟨[], .rest⟩, fun _ _ => nofun⟩

theorem bind {r : Run α} {f : α → Run β} (hr : Asks A r) (hf : ∀ a, Asks A (f a)) :
    Asks A (r >>= f) := by
  constructor
  · intro w s
    obtain ⟨new, hn⟩ := hr.stretch w s
    rw [perform_bind]
    rcases h : r.perform w s with ⟨stop | a, s'⟩ <;> rw [h] at hn
    · exact ⟨new, hn⟩
    · obtain ⟨later, hl⟩ := (hf a).stretch w s'
      exact ⟨later ++ new, hn.trans hl⟩
  · intro w s
    have he := hr.ends w s
    rw [perform_bind]
    rcases h : r.perform w s with ⟨stop | a, s'⟩
    · rw [h] at he
      simpa using he
    · exact (hf a).ends w s'

theorem map {f : α → β} {r : Run α} (hr : Asks A r) : Asks A (f <$> r) := by
  rw [← bind_pure_comp]
  exact hr.bind fun a => pure (f a)

theorem rescue {r : Run α} {handle : Failure → Run α} (hr : Asks A r)
    (hh : ∀ failure, Asks A (handle failure)) : Asks A (Run.rescue r handle) := by
  constructor
  · intro w s
    obtain ⟨new, hn⟩ := hr.stretch w s
    rw [perform_rescue]
    rcases h : r.perform w s with ⟨(failure | -) | a, s'⟩ <;> rw [h] at hn
    · obtain ⟨later, hl⟩ := (hh failure).stretch w s'
      exact ⟨later ++ new, hn.trans hl⟩
    · exact ⟨new, hn⟩
    · exact ⟨new, hn⟩
  · intro w s
    have he := hr.ends w s
    rw [perform_rescue]
    rcases h : r.perform w s with ⟨(failure | -) | a, s'⟩
    · exact (hh failure).ends w s'
    · exact absurd (congrArg Prod.fst h) he
    · nofun

theorem note {event : Event} (h : event.isNote = true) : Asks A (Run.note event) := by
  constructor
  · intro w s
    obtain ⟨signals, hn⟩ := Stretch.note (w := w) (s := s) event h
    exact ⟨_, hn.widen⟩
  · intro w s
    simp

/-- What a run has on the server may change otherwise than in what it has to remove. -/
theorem hold {change : Holdings → Holdings} (helper : ∀ h, (change h).helper = h.helper)
    (schema : ∀ h, (change h).schema = h.schema) : Asks A (Run.hold change) :=
  ⟨fun _ s => ⟨[], .held change, helper s.holdings, schema s.holdings⟩, fun _ _ => by simp⟩

theorem log (level : LogLevel) (text : String) : Asks A (Run.log level text) := note rfl

theorem printLine (text : String) : Asks A (Run.printLine text) := note rfl

theorem sleep (seconds : Value) : Asks A (Run.sleep seconds) := note rfl

theorem shutdownWanted : Asks A Run.shutdownWanted :=
  (note rfl).bind fun _ => get.bind fun _ => pure _

theorem ofFault (r : Except Fault α) : Asks A (Run.ofFault r) := by
  cases r with
  | error fault => exact fail _
  | ok a => exact pure a

theorem printValue (label : String) (v : Value) : Asks A (Run.printValue label v) :=
  (ofFault _).bind fun _ => printLine _

theorem ofExcept (r : Except Failure α) : Asks A (Run.ofExcept r) := by
  cases r with
  | error failure => exact fail failure
  | ok a => exact pure a

theorem fetch {statement : Statement} (h : A statement) : Asks A (Run.fetch statement) := by
  constructor
  · intro w s
    have hf := fetched w s statement
    by_cases up : s.link = .up
    · obtain ⟨quiet, hq, -⟩ := hf.sent up
      exact ⟨_, hq.mono fun st (hst : st = statement) => hst ▸ h⟩
    · rw [(hf.down up).1]
      exact ⟨[], .rest⟩
  · intro w s
    have hf := fetched w s statement
    generalize (Run.fetch statement).perform w s = p at hf ⊢
    obtain ⟨result, s'⟩ := p
    simp only at hf
    cases hf <;> nofun

theorem rows {statement : Statement} (h : A statement) : Asks A (Run.rows statement) :=
  (fetch h).bind fun set => pure set.rows

theorem execute {sql : String} (h : A (.plain sql)) : Asks A (Run.execute sql) :=
  (fetch h).bind fun _ => pure ()

theorem firstCell (rows : List (List Value)) : Asks A (Run.firstCell rows) := by
  unfold Run.firstCell
  split
  · exact pure _
  · exact fail _

theorem forM {items : List α} {f : α → Run PUnit} (h : ∀ a ∈ items, Asks A (f a)) :
    Asks A (items.forM f) := by
  induction items with
  | nil => exact pure _
  | cons a items ih =>
    show Asks A (f a >>= fun _ => items.forM f)
    exact (h a (by simp)).bind fun _ => ih fun b hb => h b (by simp [hb])

/-- Asking a server for its release takes one statement. -/
theorem fetchRelease (h : A (.plain "SELECT version()")) : Asks A Run.fetchRelease := by
  unfold Run.fetchRelease
  refine ((rows h).rescue ?_).bind fun rows => ?_
  · intro failure
    split
    · exact fail _
    · exact fail _
  · split
    · exact fail _
    · exact (firstCell rows).bind fun _ => (ofExcept _).bind fun _ =>
        (log _ _).bind fun _ => pure _

end Asks

end Run

end PgVitals
