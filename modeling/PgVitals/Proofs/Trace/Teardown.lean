import PgVitals.Proofs.Session.Objects
import PgVitals.Trace.Helper
/-!
# Dropping the helper

However a trace ends, its helper is dropped over a connection that is still open, and the failure
that ended it is the failure the caller sees. Nothing here depends on what the trace did: the body
is any computation over the session, and every answer of the server is possible.

* `DropEnds` lists how dropping the helper can end, and `drop_ends` says that there is no other way.
  `DropEnds.sent` and `DropEnds.exchanges` tell what is sent: the schema is asked to be dropped
  first, and the table exactly when that was accepted over a connection that is still open.
* `Cleared` is what is left on the server, and what the run knows about it, once both statements
  were accepted: `DropEnds.cleared`.
* `DropDue` says when the helper is dropped at all: always after a normal end, and after a failure
  where there is something to drop.
* `TornDown` puts this together for a block, by the way in which the block was left, and
  `perform_withHelper` is the equation it rests on.

A run that is cut short, because its turns are used up, counts as neither a normal end nor a
failure; nothing is dropped after it. Dropping may fail in its turn: after a normal end that is the
failure of the trace, and after a failure it is only logged.
-/

namespace PgVitals.Trace

variable {α : Type} {w : Surroundings} {s s' : Session}

/-! ## What the helper is made of -/

/-- The schema of the helper, on the server. -/
def helperSchema : ServerObject := ⟨createSchema, dropSchema⟩

/-- The function that traces; it goes with its schema. -/
def helperFunction (workers : Bool) : ServerObject := ⟨createFunction workers, dropSchema⟩

/-- The table of what was seen. -/
def helperTable : ServerObject := ⟨createTable, dropTable⟩

/-- What `install` creates. -/
def helperObjects (workers : Bool) : List ServerObject :=
  [helperTable, helperSchema, helperFunction workers]

/-! ## Dropping -/

/-- The session after both statements of `drop` were accepted. -/
def dropped (w : Surroundings) (s : Session) : Session :=
  (s.answered w (.plain dropSchema)).answered w (.plain dropTable)

/-- The ways `drop` can end. A refused statement may leave a log record behind. -/
inductive DropEnds (w : Surroundings) (s : Session) : Except Stop Unit → Session → Prop
  | unsent (down : s.link ≠ .up) :
      DropEnds w s (.error (.failed (Run.meaning dropSchema connectionClosed s.link))) s
  | schemaRefused (up : s.link = .up) (error : DriverError)
      (refuses : (w.reply s.past (.plain dropSchema)).outcome = .refused error)
      {new : List Event} {s' : Session}
      (logs : Quiet w (s.answered w (.plain dropSchema)) new s') :
      DropEnds w s
        (.error (.failed (Run.meaning dropSchema error (s.answered w (.plain dropSchema)).link))) s'
  | tableUnsent (up : s.link = .up)
      (accepts : (w.reply s.past (.plain dropSchema)).accepts = true)
      (closes : (w.reply s.past (.plain dropSchema)).closes = true) :
      DropEnds w s
        (.error (.failed (Run.meaning dropTable connectionClosed .lost)))
        (s.answered w (.plain dropSchema))
  | tableRefused (up : s.link = .up)
      (accepts : (w.reply s.past (.plain dropSchema)).accepts = true)
      (opens : (w.reply s.past (.plain dropSchema)).closes = false) (error : DriverError)
      (refuses : (w.reply (s.answered w (.plain dropSchema)).past (.plain dropTable)).outcome =
        .refused error) {new : List Event} {s' : Session}
      (logs : Quiet w (dropped w s) new s') :
      DropEnds w s
        (.error (.failed (Run.meaning dropTable error (dropped w s).link))) s'
  | gone (up : s.link = .up)
      (accepts : (w.reply s.past (.plain dropSchema)).accepts = true)
      (opens : (w.reply s.past (.plain dropSchema)).closes = false)
      (acceptsTable :
        (w.reply (s.answered w (.plain dropSchema)).past (.plain dropTable)).accepts = true)
      {new : List Event} {s' : Session}
      (logs : Quiet w
        { dropped w s with holdings := { (dropped w s).holdings with helper := false } } new s') :
      DropEnds w s (.ok ()) s'

theorem drop_ends (w : Surroundings) (s : Session) :
    DropEnds w s (drop.perform w s).1 (drop.perform w s).2 := by
  have first := Run.fetched w s (.plain dropSchema)
  rw [drop, Run.perform_bind, Run.perform_execute]
  generalize (Run.fetch (.plain dropSchema)).perform w s = p at first ⊢
  obtain ⟨result, s₁⟩ := p
  simp only at first
  cases first with
  | unsent down => exact .unsent down
  | refused up error refuses logs => exact .schemaRefused up error refuses logs
  | accepted up set accepts =>
    have second := Run.fetched w (s.answered w (.plain dropSchema)) (.plain dropTable)
    have link := Session.up_answered_iff (w := w) (s := s) (.plain dropSchema)
    simp only [Except.map]
    rw [Run.perform_bind, Run.perform_execute]
    generalize (Run.fetch (.plain dropTable)).perform w _ = p at second ⊢
    obtain ⟨result, s₂⟩ := p
    simp only at second
    cases second with
    | unsent down =>
      have closes : (w.reply s.past (.plain dropSchema)).closes = true := by
        rw [← Bool.not_eq_false]
        exact fun opens => down (link.mpr ⟨up, opens⟩)
      rw [Session.link_answered, if_pos closes]
      exact .tableUnsent up accepts closes
    | refused up' error refuses logs =>
      exact .tableRefused up accepts (link.mp up').2 error refuses logs
    | accepted up' set accepts' =>
      obtain ⟨signals, logs⟩ := Stretch.note (w := w)
        (s := { dropped w s with holdings := { (dropped w s).holdings with helper := false } })
        (.logged .info "Function dropped") rfl
      exact .gone up accepts (link.mp up').2 accepts' logs

/-! ## What dropping does -/

/-- What `drop` exchanges with the server over an open connection: the second statement is sent
exactly when the first was accepted and left the connection open. -/
def dropExchanges (w : Surroundings) (s : Session) : List (Statement × Reply) :=
  let first := w.reply s.past (.plain dropSchema)
  (.plain dropSchema, first) ::
    if first.accepts && !first.closes then
      [(.plain dropTable, w.reply (s.answered w (.plain dropSchema)).past (.plain dropTable))]
    else []

/-- Whether the server accepts both statements of `drop`. -/
structure DropsAccepted (w : Surroundings) (s : Session) : Prop where
  schema : (w.reply s.past (.plain dropSchema)).accepts = true
  opens : (w.reply s.past (.plain dropSchema)).closes = false
  table : (w.reply (s.answered w (.plain dropSchema)).past (.plain dropTable)).accepts = true

/-- After some events neither the helper nor a part of it is on the server, and the run knows. -/
structure Cleared (s : Session) : Prop where
  released : s.holdings.helper = false
  gone : ∀ workers, ∀ o ∈ helperObjects workers, o.standsAfter s.past = false

namespace DropEnds

variable {result : Except Stop Unit}

/-- Over an open connection exactly the statements of `drop` are sent, behind all others. -/
theorem exchanges (h : DropEnds w s result s') (up : s.link = .up) :
    s'.exchanges = s.exchanges ++ dropExchanges w s := by
  have first := Session.exchanges_answered (w := w) (s := s) (.plain dropSchema)
  have second := Session.exchanges_answered (w := w) (s := s.answered w (.plain dropSchema))
    (.plain dropTable)
  rw [first, List.append_assoc] at second
  simp only [dropExchanges]
  cases h with
  | unsent down => exact absurd up down
  | schemaRefused _ error refuses logs =>
    rw [logs.exchanges_silent, first, Reply.accepts_refused refuses]
    rfl
  | tableUnsent _ accepts closes =>
    rw [first, accepts, closes]
    rfl
  | tableRefused _ accepts opens error refuses logs =>
    rw [logs.exchanges_silent, dropped, second, accepts, opens]
    rfl
  | gone _ accepts opens _ logs =>
    rw [logs.exchanges_silent, accepts, opens]
    exact second

/-- The schema is asked to be dropped first, and then perhaps the table. -/
theorem sent (h : DropEnds w s result s') (up : s.link = .up) :
    ∃ later, s'.past = later ++ .asked (.plain dropSchema)
        (w.reply s.past (.plain dropSchema)) :: s.past ∧
      ∀ statement reply, Event.asked statement reply ∈ later → statement = .plain dropTable := by
  obtain ⟨quiet, first, silent⟩ := s.past_answered w (.plain dropSchema)
  obtain ⟨due, second⟩ := Stretch.answered (w := w) (s := s.answered w (.plain dropSchema))
    (.plain dropTable)
  -- Whatever comes after the first statement has no other statement in it than the second.
  have behind : ∀ new : List Event, s'.past = new ++ (s.answered w (.plain dropSchema)).past →
      (∀ statement reply, Event.asked statement reply ∈ new → statement = .plain dropTable) →
      ∃ later, s'.past = later ++ .asked (.plain dropSchema)
          (w.reply s.past (.plain dropSchema)) :: s.past ∧
        ∀ statement reply, Event.asked statement reply ∈ later → statement = .plain dropTable := by
    intro new past only
    refine ⟨new ++ quiet, by rw [past, first, List.append_assoc], ?_⟩
    intro statement reply hm
    rcases List.mem_append.mp hm with hm | hm
    · exact only statement reply hm
    · exact absurd hm (silent.not_asked statement reply)
  cases h with
  | unsent down => exact absurd up down
  | schemaRefused _ error refuses logs =>
    exact behind _ logs.past fun st r hm => (logs.asked st r hm).1.elim
  | tableUnsent => exact behind [] rfl fun _ _ => nofun
  | tableRefused _ accepts opens error refuses logs =>
    have whole := second.toPassage.trans logs.widen.toPassage
    exact behind _ whole.past fun st r hm => (whole.asked st r hm).1
  | gone _ accepts opens accepts' logs =>
    have whole := second.toPassage.trans ((Passage.held fun h => { h with helper := false }).trans
      logs.widen.toPassage)
    exact behind _ whole.past fun st r hm => (whole.asked st r hm).1

theorem unchanged (h : DropEnds w s result s') (down : s.link ≠ .up) : s' = s := by
  cases h with
  | unsent => rfl
  | schemaRefused up | tableUnsent up | tableRefused up | gone up => exact absurd up down

/-- When `drop` fails, it fails in a way that is told to the user. -/
theorem reported {stop : Stop} (h : DropEnds w s (.error stop) s') :
    ∃ failure, stop = .failed failure ∧ failure.isReported = true := by
  cases h with
  | unsent | schemaRefused | tableUnsent | tableRefused =>
    exact ⟨_, rfl, Run.meaning_isReported ..⟩

/-- When `drop` succeeds, nothing of the helper is left. -/
theorem cleared (h : DropEnds w s (.ok ()) s') : Cleared s' := by
  cases h with
  | gone up accepts opens accepts' logs =>
    refine ⟨logs.helper, fun workers o ho => ?_⟩
    rw [logs.standsAfter_silent]
    show o.standsAfter ((s.answered w (.plain dropSchema)).answered w (.plain dropTable)).past = _
    rw [Session.standsAfter_answered]
    simp only [helperObjects, List.mem_cons, List.not_mem_nil, or_false] at ho
    -- The table went with the last statement; the schema and the function with the one before,
    -- and the last one is about neither.
    rcases ho with rfl | rfl | rfl
    · exact ServerObject.standsAfter_removed accepts' rfl
    · rw [ServerObject.standsAfter_other (by decide) (by decide), Session.standsAfter_answered]
      exact ServerObject.standsAfter_removed accepts rfl
    · have kept : dropTable ≠ dropSchema := by decide
      have other : dropTable ≠ createFunction workers := by
        cases workers <;> decide +kernel
      rw [ServerObject.standsAfter_other kept other, Session.standsAfter_answered]
      exact ServerObject.standsAfter_removed accepts rfl

/-- When both statements are accepted, `drop` succeeds. -/
theorem succeeds (h : DropEnds w s result s') (up : s.link = .up) (both : DropsAccepted w s) :
    result = .ok () := by
  cases h with
  | unsent down => exact absurd up down
  | schemaRefused _ error refuses =>
    exact absurd (both.schema.symm.trans (Reply.accepts_refused refuses)) nofun
  | tableUnsent _ _ closes => exact absurd (closes.symm.trans both.opens) nofun
  | tableRefused _ _ _ error refuses =>
    exact absurd (both.table.symm.trans (Reply.accepts_refused refuses)) nofun
  | gone => rfl

end DropEnds

/-! ## Leaving the block -/

/-- What is done while the helper is installed, without what comes when the block is left. -/
def block (workers : Bool) (body : Run α) : Run α := do
  install workers
  body

/-- Whether the helper is dropped when a block is left: always after a normal end, and after a
failure where there is something to drop. -/
def DropDue : Except Stop α × Session → Prop
  | (.ok _, _) => True
  | (.error (.failed _), s) => s.holdings.helper = true
  | (.error .unfinished, _) => False

theorem Cleared.later {new : List Event} (h : Cleared s)
    (logs : Quiet w s new s') : Cleared s' :=
  ⟨logs.helper.trans h.released, fun workers o ho =>
    logs.standsAfter_silent.trans (h.gone workers o ho)⟩

/-- Dropping while a failure is under way is `drop`, where that is possible; it may log why it could
not be done, and it never fails itself. -/
theorem dropAfterFailure_held (held : s.holdings.helper = true) (up : s.link = .up) :
    ∃ new s', Quiet w (drop.perform w s).2 new s' ∧
      dropAfterFailure.perform w s = (.ok (), s') := by
  have ends := drop_ends w s
  rw [dropAfterFailure, Run.perform_bind, Run.perform_get]
  simp only
  rw [if_pos held, if_neg (not_not_intro up), Run.perform_rescue]
  rcases h : drop.perform w s with ⟨stop | _, s'⟩ <;> rw [h] at ends
  · obtain ⟨failure, rfl, told⟩ := ends.reported
    obtain ⟨signals, logs⟩ := Stretch.note (w := w) (s := s') (.logged .warning
      ("could not drop schema " ++ schema ++ ": " ++ failure.message)) rfl
    refine ⟨_, _, logs, ?_⟩
    simp only
    rw [if_pos told]
    rfl
  · exact ⟨[], s', .rest, rfl⟩

/-- Where there is nothing to drop, or nothing to drop it over, no statement is sent. -/
theorem dropAfterFailure_skipped (h : s.holdings.helper = false ∨ s.link ≠ .up) :
    ∃ new s', Quiet w s new s' ∧
      dropAfterFailure.perform w s = (.ok (), s') := by
  rw [dropAfterFailure, Run.perform_bind, Run.perform_get]
  simp only
  by_cases held : s.holdings.helper = true
  · have down : s.link ≠ .up := h.resolve_left (by simp [held])
    obtain ⟨signals, logs⟩ := Stretch.note (w := w) (s := s) (.logged .warning
      ("connection lost, schema " ++ schema ++ " could not be dropped")) rfl
    rw [if_pos held, if_pos down]
    exact ⟨_, _, logs, rfl⟩
  · rw [if_neg held]
    exact ⟨[], s, .rest, rfl⟩

theorem dropAfterFailure_ok (w : Surroundings) (s : Session) :
    (dropAfterFailure.perform w s).1 = .ok () := by
  by_cases held : s.holdings.helper = true
  · by_cases up : s.link = .up
    · obtain ⟨new, s', -, h⟩ := dropAfterFailure_held (w := w) held up
      rw [h]
    · obtain ⟨new, s', -, h⟩ := dropAfterFailure_skipped (w := w) (.inr up)
      rw [h]
  · obtain ⟨new, s', -, h⟩ := dropAfterFailure_skipped (w := w) (.inl (by simpa using held))
    rw [h]

/-- A failure goes through the guard unchanged; so does everything else. -/
theorem perform_guarded (r : Run α) :
    (guarded r).perform w s =
      match r.perform w s with
      | (.error (.failed failure), s') =>
        (.error (.failed failure), (dropAfterFailure.perform w s').2)
      | ended => ended := by
  rw [guarded, Run.perform_rescue]
  rcases r.perform w s with ⟨(failure | _) | a, s'⟩
  · have ok := dropAfterFailure_ok w s'
    simp only [Run.perform_bind]
    rcases h : dropAfterFailure.perform w s' with ⟨result, s''⟩
    rw [h] at ok
    obtain rfl : result = .ok () := ok
    rfl
  · rfl
  · rfl

/-- What comes when the block is left depends only on how it was left: the guards of installing and
of the body come to the same. -/
theorem perform_withHelper (workers : Bool) (body : Run α) :
    (withHelper workers body).perform w s =
      match (block workers body).perform w s with
      | (.error (.failed failure), s') =>
        (.error (.failed failure), (dropAfterFailure.perform w s').2)
      | (.error .unfinished, s') => (.error .unfinished, s')
      | (.ok a, s') => ((drop.perform w s').1.map fun _ => a, (drop.perform w s').2) := by
  -- The body is not reached when installing fails, so that no failure meets both guards.
  rw [withHelper, block, Run.perform_bind, Run.perform_bind, perform_guarded]
  rcases (install workers).perform w s with ⟨(failure | _) | _, s₁⟩
  · rfl
  · rfl
  · simp only
    rw [Run.perform_bind, perform_guarded]
    rcases body.perform w s₁ with ⟨(failure | _) | a, s₂⟩
    · rfl
    · rfl
    · simp only
      rw [Run.perform_bind]
      rcases drop.perform w s₂ with ⟨stop | _, s₃⟩ <;> rfl

/-- How a trace is left whose block was left in the way `left`. -/
structure TornDown (w : Surroundings) (left done : Except Stop α × Session) : Prop where
  /-- The failure that ended the block is the failure the caller sees. -/
  failure : ∀ failure, left.1 = .error (.failed failure) → done.1 = .error (.failed failure)
  /-- After a normal end the caller sees the failure of dropping, if there is one. -/
  normal : ∀ a, left.1 = .ok a → done.1 = (drop.perform w left.2).1.map fun _ => a
  /-- The helper is dropped behind every other statement of the session. -/
  dropped : DropDue left → left.2.link = .up →
    done.2.exchanges = left.2.exchanges ++ dropExchanges w left.2
  /-- Once both statements were accepted, nothing of the helper is left. -/
  cleared : DropDue left → left.2.link = .up → DropsAccepted w left.2 → Cleared done.2
  /-- A trace that ends normally leaves nothing behind. -/
  ended : ∀ a, done.1 = .ok a → Cleared done.2
  /-- Nothing is sent where there is nothing to drop. -/
  kept : ¬ DropDue left → done.2.exchanges = left.2.exchanges
  /-- Nothing is sent over a connection that is gone. -/
  silent : left.2.link ≠ .up → done.2.exchanges = left.2.exchanges

/-- Whatever the server answers and whatever the body does, a block with a helper is torn down. -/
theorem withHelper_tornDown (w : Surroundings) (s : Session) (workers : Bool) (body : Run α) :
    TornDown w ((block workers body).perform w s) ((withHelper workers body).perform w s) := by
  rw [perform_withHelper]
  rcases (block workers body).perform w s with ⟨(failure | _) | a, s₁⟩
  · by_cases due : s₁.holdings.helper = true ∧ s₁.link = .up
    · -- A failure, and something to drop: what `drop` fails with is logged at most.
      obtain ⟨new, s', logs, h⟩ := dropAfterFailure_held (w := w) due.1 due.2
      have ends := drop_ends w s₁
      simp only [h]
      refine ⟨fun _ same => same, nofun, fun _ up => ?_, fun _ up both => ?_, nofun,
        fun none => absurd due.1 none, fun down => absurd due.2 down⟩
      · rw [logs.exchanges_silent]
        exact ends.exchanges up
      · rw [ends.succeeds up both] at ends
        exact ends.cleared.later logs
    · -- A failure, and nothing to drop or no connection to drop it over.
      obtain ⟨new, s', logs, h⟩ := dropAfterFailure_skipped (w := w) (s := s₁) (by
        by_cases held : s₁.holdings.helper = true
        · exact .inr fun up => due ⟨held, up⟩
        · exact .inl (by simpa using held))
      simp only [h]
      exact ⟨fun _ same => same, nofun, fun held up => absurd ⟨held, up⟩ due,
        fun held up => absurd ⟨held, up⟩ due, nofun, fun _ => logs.exchanges_silent,
        fun _ => logs.exchanges_silent⟩
  · exact ⟨nofun, nofun, False.elim, False.elim, nofun, fun _ => rfl, fun _ => rfl⟩
  · -- A normal end: `drop` decides how the trace is left.
    have ends := drop_ends w s₁
    refine ⟨nofun, ?_, fun _ up => ends.exchanges up, fun _ up both => ?_, fun b hb => ?_,
      fun none => absurd trivial none, fun down => ?_⟩
    · intro b hb
      cases hb
      rfl
    · rw [ends.succeeds up both] at ends
      exact ends.cleared
    · simp only at hb ⊢
      rcases h : drop.perform w s₁ with ⟨stop | _, s'⟩
      · rw [h] at hb
        cases hb
      · rw [h] at ends
        exact ends.cleared
    · rw [ends.unchanged down]

end PgVitals.Trace
