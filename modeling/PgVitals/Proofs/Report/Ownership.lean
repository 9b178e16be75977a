import PgVitals.Proofs.Report.Preparation
/-!
# The schema of a report

A report drops the schema it has created, last of all and once, and no other. The failure that ended
the report is the failure the caller sees.

* `TeardownEnds` lists how the teardown can end, and `teardown_ends` says that there is no other
  way. `TeardownEnds.exchanges` tells what is sent: the schema is dropped exactly when it is the
  run's own and there is a connection to drop it over.
* `dropAfterFailure_ends` says that while a failure is under way the teardown does the same, but
  never fails itself.
* `run_ends` says that whichever way a report ends, its teardown is the last thing that happens, but
  for log records. `perform_run` is the equation it rests on.
* `DropsOwn` is what a report does about its schema, from the exchanges before the teardown to the
  end.

Whether the schema is the run's own is a flag of the session, and that it tells the truth is proved
in `Proofs/Report/Preparation`. Dropping may be refused; then the schema stays, the refusal is told,
and it is the failure of the report only where there was none before.
-/

namespace PgVitals.Report

open PgVitals.Catalog

variable {w : Surroundings} {s s' : Session}

/-! ## The teardown -/

/-- The ways the teardown can end. -/
inductive TeardownEnds (w : Surroundings) (s : Session) : Except Stop Unit → Session → Prop
  | nothing (free : s.holdings.schema = false) : TeardownEnds w s (.ok ()) s
  | unsent (down : s.link ≠ .up) :
      TeardownEnds w s
        (.error (.failed (Run.meaning Report.dropSchema connectionClosed s.link))) s
  | refused (owned : s.holdings.schema = true) (up : s.link = .up) (error : DriverError)
      (refuses : (w.reply s.past (.plain Report.dropSchema)).outcome = .refused error)
      {new : List Event} {s' : Session}
      (logs : Quiet w (s.answered w (.plain Report.dropSchema)) new s') :
      TeardownEnds w s (.error (.failed
        (Run.meaning Report.dropSchema error (s.answered w (.plain Report.dropSchema)).link))) s'
  | dropped (owned : s.holdings.schema = true) (up : s.link = .up)
      (accepts : (w.reply s.past (.plain Report.dropSchema)).accepts = true) :
      TeardownEnds w s (.ok ())
        { s.answered w (.plain Report.dropSchema) with
          holdings := { (s.answered w (.plain Report.dropSchema)).holdings with schema := false } }

theorem teardown_ends (w : Surroundings) (s : Session) :
    TeardownEnds w s (teardown.perform w s).1 (teardown.perform w s).2 := by
  have ends := Run.fetched w s (.plain Report.dropSchema)
  rw [teardown, Run.perform_bind, Run.perform_get]
  simp only
  by_cases owned : s.holdings.schema = true
  · rw [if_pos owned, Run.perform_bind, Run.perform_execute]
    generalize (Run.fetch (.plain Report.dropSchema)).perform w s = p at ends ⊢
    obtain ⟨result, s₁⟩ := p
    simp only at ends
    cases ends with
    | unsent down => exact .unsent down
    | accepted up set accepts => exact .dropped owned up accepts
    | refused up error refuses logs => exact .refused owned up error refuses logs
  · rw [if_neg owned]
    exact .nothing (by simpa using owned)

namespace TeardownEnds

variable {result : Except Stop Unit}

/-- The schema is dropped exactly when it is the run's own and there is a connection to drop it
over; nothing else is sent. -/
theorem exchanges (h : TeardownEnds w s result s') :
    s'.exchanges = s.exchanges ++
      if s.holdings.schema = true ∧ s.link = .up then
        [(.plain Report.dropSchema, w.reply s.past (.plain Report.dropSchema))]
      else [] := by
  cases h with
  | nothing free =>
    rw [if_neg (by simp [free]), List.append_nil]
  | unsent down =>
    rw [if_neg fun both => down both.2, List.append_nil]
  | refused owned up error refuses logs =>
    rw [if_pos ⟨owned, up⟩, logs.exchanges_silent, Session.exchanges_answered]
  | dropped owned up accepts =>
    rw [if_pos ⟨owned, up⟩]
    exact Session.exchanges_answered _

/-- The schema is asked to be dropped, and nothing else is asked. -/
theorem sent (h : TeardownEnds w s result s') (owned : s.holdings.schema = true)
    (up : s.link = .up) :
    ∃ quiet, s'.past = quiet ++ .asked (.plain Report.dropSchema)
        (w.reply s.past (.plain Report.dropSchema)) :: s.past ∧
      Silent quiet := by
  obtain ⟨quiet, past, silent⟩ := s.past_answered w (.plain Report.dropSchema)
  cases h with
  | nothing free => exact absurd (owned.symm.trans free) nofun
  | unsent down => exact absurd up down
  | @refused _ _ error _ new _ logs =>
    exact ⟨new ++ quiet, by rw [logs.past, past, List.append_assoc], logs.silent.append silent⟩
  | dropped => exact ⟨quiet, past, silent⟩

/-- When the teardown fails, it fails in a way that is told to the user. -/
theorem reported {stop : Stop} (h : TeardownEnds w s (.error stop) s') :
    ∃ failure, stop = .failed failure ∧ failure.isReported = true := by
  cases h with
  | unsent | refused => exact ⟨_, rfl, Run.meaning_isReported ..⟩

theorem unchanged (h : TeardownEnds w s result s') (down : s.link ≠ .up) : s' = s := by
  cases h with
  | nothing | unsent => rfl
  | refused _ up | dropped _ up => exact absurd up down

end TeardownEnds

/-- While a failure is under way the teardown does the same, but never fails itself. -/
theorem dropAfterFailure_ends (w : Surroundings) (s : Session) :
    ∃ new s', Quiet w (teardown.perform w s).2 new s' ∧
      dropAfterFailure.perform w s = (.ok (), s') := by
  have ends := teardown_ends w s
  rw [dropAfterFailure, Run.perform_bind, Run.perform_get]
  simp only
  by_cases up : s.link = .up
  · rw [if_pos up, Run.perform_rescue]
    rcases h : teardown.perform w s with ⟨stop | _, s₁⟩ <;> rw [h] at ends
    · obtain ⟨failure, rfl, told⟩ := ends.reported
      obtain ⟨signals, logs⟩ := Stretch.note (w := w) (s := s₁) (.logged .warning
        ("could not drop schema after failure: " ++ failure.message)) rfl
      refine ⟨_, _, logs, ?_⟩
      simp only
      rw [if_pos told]
      rfl
    · exact ⟨[], s₁, .rest, rfl⟩
  · rw [if_neg up, ends.unchanged up]
    exact ⟨[], s, .rest, rfl⟩

/-- Without a schema of its own a report has nothing to do. -/
theorem teardown_free (free : s.holdings.schema = false) :
    teardown.perform w s = (.ok (), s) := by
  rw [teardown, Run.perform_bind, Run.perform_get]
  simp only
  rw [if_neg (by simp [free])]
  rfl

theorem dropAfterFailure_free (free : s.holdings.schema = false) :
    dropAfterFailure.perform w s = (.ok (), s) := by
  rw [dropAfterFailure, Run.perform_bind, Run.perform_get]
  simp only
  split
  · rw [Run.perform_rescue, teardown_free free]
  · rfl

/-- How a report ends depends only on how far it came: where the release is not known the teardown
has nothing to do. -/
theorem perform_run (fresh : s.holdings.schema = false) (request : Request) :
    (run request).perform w s =
      match (prepare request).perform w s with
      | (.error (.failed failure), s') =>
        (.error (.failed failure), (dropAfterFailure.perform w s').2)
      | (.error .unfinished, s') => (.error .unfinished, s')
      | (.ok _, s') => teardown.perform w s' := by
  obtain ⟨earlier, h⟩ := asks_fetchRelease.stretch w s
  have free := h.schema.trans fresh
  rw [run, prepare, Run.perform_bind, Run.perform_bind]
  rcases hv : Run.fetchRelease.perform w s with ⟨(failure | _) | release, s₁⟩
  · rw [hv] at free
    simp only
    rw [dropAfterFailure_free free]
  · rfl
  · simp only
    rw [Run.perform_bind, Run.perform_rescue]
    rcases (build request release).perform w s₁ with ⟨(failure | _) | _, s₂⟩
    · obtain ⟨new, s₃, -, dropped⟩ := dropAfterFailure_ends w s₂
      simp only
      rw [Run.perform_bind, dropped]
      rfl
    · rfl
    · rfl

/-- Whichever way a report ends, its teardown is the last thing that happens, but for log
records. -/
theorem run_finishes (fresh : s.holdings.schema = false) (request : Request) :
    ∃ new, Quiet w
      (teardown.perform w ((prepare request).perform w s).2).2 new
      ((run request).perform w s).2 := by
  obtain ⟨before, ready⟩ := prepared (w := w) fresh request
  rw [perform_run fresh]
  rcases hp : (prepare request).perform w s with ⟨(failure | _) | _, s₁⟩ <;> rw [hp] at ready
  · obtain ⟨new, s₂, logs, dropped⟩ := dropAfterFailure_ends w s₁
    simp only
    rw [dropped]
    exact ⟨new, logs⟩
  · exact absurd rfl ready.ends
  · exact ⟨[], .rest⟩

theorem run_failed (fresh : s.holdings.schema = false) {request : Request} {failure : Failure}
    (failed : ((prepare request).perform w s).1 = .error (.failed failure)) :
    ((run request).perform w s).1 = .error (.failed failure) := by
  rw [perform_run fresh]
  rcases hp : (prepare request).perform w s with ⟨result, s₁⟩
  rw [hp] at failed
  obtain rfl : result = .error (.failed failure) := failed
  rfl

theorem run_ended (fresh : s.holdings.schema = false) {request : Request}
    (ended : ((prepare request).perform w s).1 = .ok ()) :
    ((run request).perform w s).1 = (teardown.perform w ((prepare request).perform w s).2).1 := by
  rw [perform_run fresh]
  rcases hp : (prepare request).perform w s with ⟨result, s₁⟩
  rw [hp] at ended
  obtain rfl : result = .ok () := ended
  rfl

theorem run_ends (fresh : s.holdings.schema = false) {request : Request} :
    ((run request).perform w s).1 ≠ .error .unfinished := by
  obtain ⟨new, ready⟩ := prepared (w := w) fresh request
  rcases hp : ((prepare request).perform w s).1 with (failure | _) | _
  · rw [run_failed fresh hp]
    nofun
  · exact absurd hp ready.ends
  · rw [run_ended fresh hp]
    have ends := teardown_ends w ((prepare request).perform w s).2
    intro unfinished
    rw [unfinished] at ends
    obtain ⟨failure, same, -⟩ := ends.reported
    cases same

/-! ## Ownership -/

/-- Whether an exchange created the schema. -/
def creates (exchange : Statement × Reply) : Bool :=
  exchange.1.sql == Report.createSchema && exchange.2.accepts

theorem created_iff_any {events : List Event} :
    ownSchema.CreatedIn events ↔ (exchangesOf events).any creates = true := by
  rw [List.any_eq_true]
  constructor
  · rintro ⟨statement, reply, hm, hs, accepts⟩
    exact ⟨(statement, reply), mem_exchangesOf.mpr hm, by
      simp [creates, hs, accepts, ownSchema]⟩
  · rintro ⟨⟨statement, reply⟩, hm, hc⟩
    simp only [creates, Bool.and_eq_true, beq_iff_eq] at hc
    exact ⟨statement, reply, mem_exchangesOf.mp hm, hc⟩

/-- What a report does about its schema. Up to its teardown, where it is in the way `ready`, the
exchanges `before` took place; in the end it is in the way `done`. -/
structure DropsOwn (w : Surroundings) (s : Session) (before : List (Statement × Reply))
    (ready done : Except Stop Unit × Session) : Prop where
  prepared : ready.2.exchanges = s.exchanges ++ before
  /-- Nothing is dropped before the teardown. -/
  spared : ∀ exchange ∈ before, exchange.1.sql ≠ Report.dropSchema
  /-- The schema is dropped, last of all, where the run has created it and the connection is
  open; in all other cases nothing follows. -/
  dropped : done.2.exchanges = s.exchanges ++ before ++
    if before.any creates = true ∧ ready.2.link = .up then
      [(.plain Report.dropSchema, w.reply ready.2.past (.plain Report.dropSchema))]
    else []
  /-- The failure that ended the report is the failure the caller sees. -/
  failure : ∀ failure, ready.1 = .error (.failed failure) → done.1 = .error (.failed failure)
  /-- After the last section the caller sees the failure of the teardown, if there is one. -/
  normal : ready.1 = .ok () → done.1 = (teardown.perform w ready.2).1
  /-- That there is such a schema already is told as what it is. -/
  duplicate : ∀ exchange ∈ before, ∀ error, exchange.1.sql = Report.createSchema →
    exchange.2.outcome = .refused error → exchange.2.closes = false →
    error.kind ≠ .cancelled → error.code = some duplicateSchema →
    done.1 = .error (.failed (.config .schemaExists))
  ends : done.1 ≠ .error .unfinished

/-- Whatever the server answers, whatever is left out and whenever the user wants the end, a report
drops the schema it has created, last and once, and no other. -/
theorem run_dropsOwn (w : Surroundings) (s : Session) (request : Request)
    (fresh : s.holdings.schema = false) :
    ∃ before, DropsOwn w s before ((prepare request).perform w s)
      ((run request).perform w s) := by
  obtain ⟨new, ready⟩ := prepared (w := w) fresh request
  obtain ⟨logged, logs⟩ := run_finishes (w := w) fresh request
  have ends := teardown_ends w ((prepare request).perform w s).2
  have exchanges : ((prepare request).perform w s).2.exchanges =
      s.exchanges ++ exchangesOf new := by
    rw [Session.exchanges, ready.passage.past, exchangesOf_append]
    rfl
  -- The flag that decides on the teardown and the exchanges before it say the same.
  have owned := and_congr_left' (c := ((prepare request).perform w s).2.link = .up)
    (ready.owned.trans created_iff_any)
  refine ⟨exchangesOf new, exchanges, ?_, ?_, ?_, ?_, ?_, ?_⟩
  · rintro ⟨statement, reply⟩ hm
    exact (ready.passage.asked statement reply (mem_exchangesOf.mp hm)).1
  · rw [logs.exchanges_silent, ends.exchanges, exchanges,
      ite_congr (propext owned) (fun _ => rfl) fun _ => rfl]
  · exact fun failure failed => run_failed fresh failed
  · exact fun ended => run_ended fresh ended
  · rintro ⟨statement, reply⟩ hm error hs refuses opens kind code
    exact run_failed fresh (ready.duplicate statement reply error (mem_exchangesOf.mp hm) hs refuses
      opens kind code)
  · exact run_ends fresh

/-- A server that has a schema of this name already. -/
def occupied : Surroundings where
  reply _ statement :=
    if statement.sql = Report.createSchema then
      { outcome := .refused ⟨.other, "schema exists", some "schema exists", some duplicateSchema⟩ }
    else { outcome := .result ⟨["version"], [[.text "PostgreSQL 16.4"]]⟩ }

theorem run_dropsOwn_occupied :
    ({} : Session).holdings.schema = false ∧
      ∃ before, DropsOwn occupied {} before ((prepare ⟨"shop", .list []⟩).perform occupied {})
        ((run ⟨"shop", .list []⟩).perform occupied {}) :=
  ⟨rfl, run_dropsOwn occupied {} ⟨"shop", .list []⟩ rfl⟩

end PgVitals.Report
