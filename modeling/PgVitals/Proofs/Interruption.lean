import PgVitals.Proofs.Report.Ownership
import PgVitals.Proofs.Session.InFlight
import PgVitals.Proofs.Trace.Teardown
import PgVitals.Proofs.Trace.Watching
/-!
# What SIGINT leaves behind

A report and a trace both drop their schema on every way out, and a statement that was started after
SIGINT is left alone. But the statement that drops the schema is itself under way for a while, and
it may be the first one that SIGINT finds. Then it is cancelled like any other, nobody sends it
again, and the schema stays. In no other case does the schema stay.

* `Report.run_leaves` and `Trace.start_leaves` say for each of the two that the schema is there in
  the end exactly when the run created it and dropping it was cancelled. Both rest on
  `stands_iff_caught`, for which the statement that drops the schema has to be the last one about
  it.
* `Trace.withHelper_drops` is why it is: however a trace is left that was not cut short, the schema
  is asked to be dropped last of all, but for the table.
* `schema_left_inFlight` is the same where every statement is waited for with the callback of the
  driver, and fails only when the callback cancels it. There the rule for cancelled statements is
  proved and not assumed.

No statement fails by itself on the servers considered here. Where statements do fail,
`Proofs/Trace/Teardown` and `Proofs/Report/Ownership` say what is dropped; they do not say when a
cancellation is the cause.
-/

namespace PgVitals

open PgVitals.Catalog

variable {w : Surroundings} {s s' : Session}

/-! ## Reports -/

namespace Report

/-- The schema of a report is there in the end exactly when the run created it and dropping it was
cancelled. -/
theorem run_leaves (fresh : s.holdings.schema = false) (up : s.link = .up) (server : Cancelling w s)
    (request : Request) :
    ∃ new, ((run request).perform w s).2.past = new ++ s.past ∧
      (ownSchema.standsAfter new = true ↔ ownSchema.CreatedIn new ∧ ownSchema.CaughtIn s new) := by
  obtain ⟨before, ready⟩ := prepared (w := w) fresh request
  obtain ⟨logged, logs⟩ := run_finishes (w := w) fresh request
  have ends := teardown_ends w ((prepare request).perform w s).2
  have kept : ownSchema.Kept before := fun st r hm => (ready.passage.asked st r hm).1
  have opened := ready.passage.up up server.keeps
  by_cases owned : ((prepare request).perform w s).2.holdings.schema = true
  · -- The run's own schema: dropping it is the last statement.
    obtain ⟨quiet, past, silent⟩ := ends.sent owned opened
    rw [ready.passage.past] at past
    have silentAll := logs.silent.append silent
    refine ⟨(logged ++ quiet) ++ .asked (.plain Report.dropSchema)
      (w.reply (before ++ s.past) (.plain Report.dropSchema)) :: before, ?_, ?_⟩
    · rw [logs.past, past]
      simp
    · exact ServerObject.stands_iff_caught (by decide) (.of_silent silentAll)
        (fun st r hm => absurd hm (silentAll.not_asked st r)) kept
        (server.refuses before _)
  · -- Nothing was created, so nothing is dropped.
    rw [teardown_free (by simpa using owned)] at logs
    refine ⟨logged ++ before, ?_, ?_⟩
    · rw [logs.past, ready.passage.past, List.append_assoc]
    · have keptAll : ownSchema.Kept (logged ++ before) := .append (.of_silent logs.silent) kept
      exact ServerObject.stands_iff_caught_of_absent keptAll fun created =>
        owned (ready.owned.mpr (created.of_silent logs.silent))

end Report

/-! ## Traces -/

namespace Trace

/-- Nothing a trace asks is about the schema of the helper. -/
theorem Target.Sends.ne_dropSchema {t : Target} {statement : Statement} (h : t.Sends statement) :
    statement.sql ≠ dropSchema := by
  intro same
  rcases h with rfl | rfl | rfl | ⟨query, rfl⟩
  · simpa [same] using texts_nodup t ⟨.null, .null, .null⟩
  · simpa [same] using texts_nodup t ⟨.null, .null, .null⟩
  · simpa [same] using texts_nodup t ⟨.null, .null, .null⟩
  · simpa [same] using texts_nodup t query

theorem run_stretch (w : Surroundings) (s : Session) (t : Target) :
    ∃ new, Stretch w t.Sends s new ((run t).perform w s).2 := by
  rcases run_watched w s t with ⟨fault, -, failed⟩ | ⟨-, new, stretch, -⟩
  · rw [failed]
    exact ⟨[], .rest⟩
  · exact ⟨new, stretch⟩

/-- The statements that install the helper. -/
def create (workers : Bool) : Run Unit := do
  Run.execute createTable
  Run.log .info "Temporary table created"
  Run.execute createSchema
  Run.execute (createFunction workers)
  Run.log .info "Function created"

theorem install_eq (workers : Bool) :
    install workers = Run.hold (fun h => { h with helper := true }) >>= fun _ => create workers :=
  rfl

theorem asks_create (workers : Bool) :
    Run.Asks (fun statement => statement.sql ≠ dropSchema) (create workers) := by
  have table : createTable ≠ dropSchema := by decide
  have schema : createSchema ≠ dropSchema := by decide
  have function : createFunction workers ≠ dropSchema := by
    cases workers <;> decide +kernel
  exact (Run.Asks.execute table).bind fun _ => (Run.Asks.log _ _).bind fun _ =>
    (Run.Asks.execute schema).bind fun _ => (Run.Asks.execute function).bind fun _ => .log _ _

/-- A block drops nothing, and there is something to drop when it is left. -/
theorem block_passage (w : Surroundings) (s : Session) (t : Target) :
    ∃ new, Passage w (fun statement => statement.sql ≠ dropSchema) s new
        ((block t.workers (run t)).perform w s).2 ∧
      ((block t.workers (run t)).perform w s).2.holdings.helper = true := by
  let held : Session := { s with holdings := { s.holdings with helper := true } }
  have begins : (block t.workers (run t)).perform w s =
      (create t.workers >>= fun _ => run t).perform w held := by
    rw [block, install_eq, bind_assoc, Run.perform_bind, Run.perform_hold]
  obtain ⟨created, first⟩ := (asks_create t.workers).stretch w held
  have passage := (Passage.held (w := w) (s := s)
    (A := fun statement => statement.sql ≠ dropSchema) fun h => { h with helper := true }).trans
      first.toPassage
  rw [begins, Run.perform_bind]
  rcases hc : (create t.workers).perform w held with ⟨stop | _, s₁⟩ <;> rw [hc] at first passage
  · exact ⟨_, passage, first.helper⟩
  · obtain ⟨watched, rest⟩ := run_stretch w s₁ t
    exact ⟨_, passage.trans (rest.toPassage.mono fun _ sent => sent.ne_dropSchema),
      rest.helper.trans first.helper⟩

/-- However a trace is left that was not cut short, the schema was asked to be dropped last of all,
but for the table. -/
theorem withHelper_drops (up : s.link = .up)
    (keeps : ∀ past statement, (w.reply past statement).closes = false) (t : Target)
    (ended : ((withHelper t.workers (run t)).perform w s).1 ≠ .error .unfinished) :
    ∃ later before, ((withHelper t.workers (run t)).perform w s).2.past =
        later ++ .asked (.plain dropSchema) (w.reply (before ++ s.past) (.plain dropSchema)) ::
          (before ++ s.past) ∧
      (∀ st r, Event.asked st r ∈ later → st = .plain dropTable) ∧
      ∀ st r, Event.asked st r ∈ before → st.sql ≠ dropSchema := by
  obtain ⟨before, passage, held⟩ := block_passage w s t
  have opened := passage.up up keeps
  have ends := drop_ends w ((block t.workers (run t)).perform w s).2
  obtain ⟨later, past, only⟩ := ends.sent opened
  rw [passage.past] at past
  rw [perform_withHelper] at ended ⊢
  rcases hb : (block t.workers (run t)).perform w s with ⟨(failure | _) | _, s₁⟩ <;>
    rw [hb] at passage held opened ends past ended
  · obtain ⟨new, s₂, logs, dropped⟩ := dropAfterFailure_held (w := w) held opened
    simp only at dropped logs past ⊢
    rw [dropped, logs.past, past]
    refine ⟨new ++ later, before, by rw [List.append_assoc], ?_, fun st r hm =>
      (passage.asked st r hm).1⟩
    intro st r hm
    rcases List.mem_append.mp hm with hm | hm
    · exact (logs.asked st r hm).1.elim
    · exact only st r hm
  · exact absurd rfl ended
  · exact ⟨later, before, past, only, fun st r hm => (passage.asked st r hm).1⟩

/-- The schema of a helper is there in the end exactly when the run created it and dropping it was
cancelled. -/
theorem start_leaves (up : s.link = .up) (server : Cancelling w s) (t : Target)
    (ended : ((start t).perform w s).1 ≠ .error .unfinished) :
    ∃ new, ((start t).perform w s).2.past = new ++ s.past ∧
      (helperSchema.standsAfter new = true ↔
        helperSchema.CreatedIn new ∧ helperSchema.CaughtIn s new) := by
  have version : Run.Asks (· = .plain "SELECT version()") Run.fetchRelease := .fetchRelease rfl
  obtain ⟨asked, first⟩ := version.stretch w s
  have kept : helperSchema.Kept asked := by
    intro st r hm
    rw [(first.asked st r hm).1]
    decide
  have absent : ¬ helperSchema.CreatedIn asked := by
    rintro ⟨st, r, hm, creates, -⟩
    rw [(first.asked st r hm).1] at creates
    exact absurd creates (by decide)
  -- Where the helper is not even installed, the schema was neither created nor dropped.
  have refused := ServerObject.stands_iff_caught_of_absent (s := s) kept absent
  have opened := first.toPassage.up up server.keeps
  rw [start, Run.perform_bind] at ended ⊢
  rcases hv : Run.fetchRelease.perform w s with ⟨stop | release, s₁⟩ <;>
    rw [hv] at first opened ended
  · exact ⟨asked, first.past, refused⟩
  · simp only at ended ⊢
    rw [Run.perform_bind] at ended ⊢
    rcases hc : checkRelease t.workers release with failure | _ <;> rw [hc] at ended
    · exact ⟨asked, first.past, refused⟩
    · obtain ⟨later, before, past, only, spared⟩ := withHelper_drops opened server.keeps t ended
      have tableKeeps : dropTable ≠ dropSchema := by decide
      have tableMakes : dropTable ≠ createSchema := by decide
      rw [first.past, ← List.append_assoc] at past
      refine ⟨later ++ .asked (.plain dropSchema)
        (w.reply ((before ++ asked) ++ s.past) (.plain dropSchema)) :: (before ++ asked), ?_, ?_⟩
      · rw [List.append_assoc]
        exact past
      · refine ServerObject.stands_iff_caught (by decide) ?_ ?_
          (ServerObject.Kept.append spared kept) (server.refuses _ _)
        · intro st r hm
          rw [only st r hm]
          exact tableKeeps
        · intro st r hm
          rw [only st r hm]
          exact tableMakes

end Trace

/-! ## Both -/

/-- On a server where no statement fails by itself, and whenever SIGINT arrives, the schema of a
report or of a trace is there after the run exactly when the run has created it and SIGINT has
cancelled the statement that drops it. -/
theorem schema_left_iff_caught (w : Surroundings) (s : Session) (up : s.link = .up)
    (fresh : s.holdings.schema = false) (server : Cancelling w s) :
    (∀ request, ∃ new, ((Report.run request).perform w s).2.past = new ++ s.past ∧
      (Report.ownSchema.standsAfter new = true ↔
        Report.ownSchema.CreatedIn new ∧ Report.ownSchema.CaughtIn s new)) ∧
    ∀ t : Trace.Target, ((Trace.start t).perform w s).1 ≠ .error .unfinished →
      ∃ new, ((Trace.start t).perform w s).2.past = new ++ s.past ∧
        (Trace.helperSchema.standsAfter new = true ↔
          Trace.helperSchema.CreatedIn new ∧ Trace.helperSchema.CaughtIn s new) :=
  ⟨Report.run_leaves fresh up server, Trace.start_leaves up server⟩

/-- The same where every statement is waited for with the callback, and fails only when that cancels
it. -/
theorem schema_left_inFlight {x : Flight} (proper : x.Proper) (others : Surroundings) (s : Session)
    (up : s.link = .up) (fresh : s.holdings.schema = false) :
    (∀ request, ∃ new,
      ((Report.run request).perform (x.surroundings s others) s).2.past = new ++ s.past ∧
      (Report.ownSchema.standsAfter new = true ↔
        Report.ownSchema.CreatedIn new ∧ Report.ownSchema.CaughtIn s new)) ∧
    ∀ t : Trace.Target,
      ((Trace.start t).perform (x.surroundings s others) s).1 ≠ .error .unfinished → ∃ new,
        ((Trace.start t).perform (x.surroundings s others) s).2.past = new ++ s.past ∧
        (Trace.helperSchema.standsAfter new = true ↔
          Trace.helperSchema.CreatedIn new ∧ Trace.helperSchema.CaughtIn s new) :=
  have server := Flight.cancelling proper s others
  ⟨Report.run_leaves fresh up server, Trace.start_leaves up server⟩

/-- A server that does what it is told. SIGINT arrives while the schema of a run is dropped. -/
def interruptedDrop : Surroundings where
  reply past statement :=
    if (statement.sql = Trace.dropSchema ∨ statement.sql = Report.dropSchema) ∧
        ({} : Session).flagged past = false then
      { signals := [.interrupt]
        outcome := .refused
          ⟨.cancelled, "canceling statement due to user request", none, some "57014"⟩ }
    else if statement.sql = "SELECT version()" then
      { outcome := .result ⟨["version"], [[.text "PostgreSQL 16.4"]]⟩ }
    else {}
  patience := 3

theorem interruptedDrop_cancelling : Cancelling interruptedDrop {} := by
  refine ⟨fun new statement => ?_, fun new statement error refuses => ?_, fun past statement => ?_⟩
  · simp only [interruptedDrop, List.append_nil]
    split
    · rename_i caught
      exact iff_of_true rfl ⟨caught.2, List.mem_cons_self⟩
    · split <;> exact iff_of_false nofun nofun
  · simp only [interruptedDrop] at refuses
    split at refuses
    · cases refuses
      rfl
    · split at refuses <;> cases refuses
  · simp only [interruptedDrop]
    split
    · rfl
    · split <;> rfl

theorem schema_left_iff_caught_interruptedDrop :
    Cancelling interruptedDrop {} ∧
      ∃ new, ((Trace.start ⟨42, .float 1.0, false⟩).perform interruptedDrop {}).2.past =
          new ++ ({} : Session).past ∧
        (Trace.helperSchema.standsAfter new = true ↔
          Trace.helperSchema.CreatedIn new ∧ Trace.helperSchema.CaughtIn {} new) :=
  ⟨interruptedDrop_cancelling,
    (schema_left_iff_caught interruptedDrop {} rfl rfl interruptedDrop_cancelling).2
      ⟨42, .float 1.0, false⟩ (by decide +kernel)⟩

/-- A trace whose target is gone leaves the schema of its helper behind, and a report that has
printed all its sections leaves its own. -/
theorem schema_left_behind :
    Cancelling interruptedDrop {} ∧
      ((Trace.start ⟨42, .float 1.0, false⟩).perform interruptedDrop {}).1 =
        .error (.failed (.targetGone (some 42))) ∧
      Trace.helperSchema.standsAfter
        ((Trace.start ⟨42, .float 1.0, false⟩).perform interruptedDrop {}).2.past = true ∧
      Report.ownSchema.standsAfter
        ((Report.run ⟨"shop", .list []⟩).perform interruptedDrop {}).2.past = true := by
  refine ⟨interruptedDrop_cancelling, ?_, ?_, ?_⟩
  · decide +kernel
  · decide +kernel
  · decide +kernel

end PgVitals
