import PgVitals.FreeSpace
import PgVitals.Proofs.Monitor.Samples
import PgVitals.Proofs.Report.Course
import PgVitals.Proofs.Report.Ownership
import PgVitals.Proofs.Session.Refusals
import PgVitals.Proofs.Trace.Sharing
import PgVitals.Proofs.Trace.Turns
import PgVitals.Snapshot.Dump
/-!
# Refused statements, utility by utility

Every utility passes on what a refusal means, but for four places: asking for the release gives a
refusal another name, so does creating the schema of the report where there is one already, a trace
does without the helper where it refuses the process, and a teardown that comes after a failure only
warns.

The first three are handlings, stated as functions of the statement and of what its refusal means:

* `asRelease` for the query that asks for the release,
* `Report.asClaim` for the statement that creates the schema of a report,
* `Trace.skipping` for the statement that calls the helper of a trace.

The fourth is in `Removes` and `Tidies`. For each function of the utilities there is one lemma,
named `surfaces_` and the function, and the lemma of a utility is made from those of what it calls:
`Snapshot.surfaces_run`, `Report.surfaces_run`, `Trace.surfaces_run`, `FreeSpace.surfaces_display`
and `Monitor.Collector.surfaces_sample`. A trace is given with any body, of which only has to be
known how it handles its own refusals: `Trace.surfaces_withHelper`.

An error is known by what the driver reports of it: its kind, its texts and its SQLSTATE. What it
means is stated here without the function of the program that decides it. Interruptions by the user
are failures of the program's own, and a run that is not told to heed signals has none.
-/

namespace PgVitals

open PgVitals.Catalog Run

variable {heeds : Bool} {h : Handling}

/-! ## Asking for the release -/

/-- A server that refuses to say its release leaves it unknown. -/
def asRelease (statement : Statement) : Failure → Option Failure
  | .query message sql code =>
    if statement.sql = "SELECT version()" then some (.releaseUnknown (.queryFailed message))
    else some (.query message sql code)
  | failure => some failure

theorem asRelease_query (message sql : String) (code : Option String) :
    asRelease (.plain "SELECT version()") (.query message sql code) =
      some (.releaseUnknown (.queryFailed message)) := by
  simp only [asRelease, Statement.plain, if_true]

theorem ofDigits_own {major minor : List Char} {failure : Failure}
    (fails : Release.ofDigits major minor = .error failure) : failure.Own heeds := by
  unfold Release.ofDigits at fails
  cases first : Release.readNumber major with
  | error fault =>
    rw [first] at fails
    cases fails
    exact Hushed.fault _
  | ok m =>
    rw [first] at fails
    cases second : Release.readNumber minor with
    | error fault =>
      rw [second] at fails
      cases fails
      exact Hushed.fault _
    | ok n =>
      rw [second] at fails
      cases fails

theorem ofCell_own {cell : Value} {failure : Failure}
    (fails : Release.ofCell cell = .error failure) : failure.Own heeds := by
  unfold Release.ofCell at fails
  split at fails
  · unfold Release.ofIdentification at fails
    split at fails
    · cases fails
      exact ⟨rfl, nofun⟩
    · split at fails
      · exact ofDigits_own fails
      · cases fails
        exact ⟨rfl, nofun⟩
  · split at fails
    · cases fails
      exact Hushed.fault _
    · cases fails
      exact ⟨rfl, nofun⟩

theorem surfaces_fetchRelease (rest : Handling) :
    Surfaces heeds (.first asRelease rest) fetchRelease := by
  unfold fetchRelease Run.rows
  simp only [bind_pure_comp]
  refine Surfaces.andThen (.handled (fun failure reported => .inl ?_) fun _ => rfl) fun rows => ?_
  · cases failure with
    | query message sql code => exact ⟨_, asRelease_query message sql code, rfl, rfl⟩
    | fault | driver | exit => cases reported
    | _ => exact ⟨_, rfl, rfl, rfl⟩
  · split
    · exact .fail ⟨rfl, fun same => by cases same⟩
    · exact (Hushed.firstCell rows).bind fun cell =>
        (Hushed.ofExcept fun failure => ofCell_own).bind fun release => (Hushed.log _ _).map

theorem sends_fetchRelease : Sends fetchRelease [.plain "SELECT version()"] := by
  intro w s release s' returned
  obtain ⟨reply, did⟩ := fetchRelease_returns returned
  exact ⟨_, did.exchanges, rfl⟩

/-! ## Templates -/

theorem require_own {t : Template} {release : Release} {failure : Failure}
    (fails : t.require release = .error failure) : failure.Own heeds := by
  unfold Template.require at fails
  split at fails
  · cases fails
  · cases fails
    exact ⟨rfl, nofun⟩

theorem source_own {t : Template} {release : Release} {failure : Failure}
    (fails : t.source release = .error failure) : failure.Own heeds := by
  unfold Template.source at fails
  split at fails
  · cases fails
  · split at fails
    · cases fails
      exact ⟨rfl, nofun⟩
    · cases fails
      exact Hushed.fault _

theorem render_own {t : Template} {release : Release} {filter : Value} {failure : Failure}
    (fails : t.render release filter = .error failure) : failure.Own heeds := by
  unfold Template.render at fails
  cases required : t.require release with
  | error cause =>
    rw [required] at fails
    cases fails
    exact require_own required
  | ok _ =>
    rw [required] at fails
    cases found : t.source release with
    | error cause =>
      rw [found] at fails
      cases fails
      exact source_own found
    | ok source =>
      rw [found] at fails
      simp only [bind, Except.bind] at fails
      split at fails <;> cases fails

/-! ## Snapshots -/

namespace Snapshot

theorem hushed_requireDirectory (directory : Value) :
    Hushed heeds (requireDirectory directory) := by
  refine Hushed.get.bind fun s => (Hushed.ofFault _).bind fun found => ?_
  split
  · exact .fail ⟨rfl, nofun⟩
  · exact .pure _

theorem hushed_open (sink : Sink) (name : String) : Hushed heeds (sink.open name) := by
  constructor
  · intro w s
    rw [Sink.open, perform_bind, perform_get]
    simp only
    rcases s.files.openAppend (sink.path name) with fault | ⟨location, files⟩
    · exact ⟨[], .rest, by simp [Silent]⟩
    · exact ⟨[], ⟨rfl, rfl⟩, by simp [Silent]⟩
  · intro w s failure fails
    rw [Sink.open, perform_bind, perform_get] at fails
    simp only at fails
    rcases opens : s.files.openAppend (sink.path name) with fault | ⟨location, files⟩
    · rw [opens] at fails
      cases fails
      exact Hushed.fault fault
    · rw [opens] at fails
      cases fails

/-- What became of a file that could not be opened is the program's own affair, too. -/
theorem openFailure_own {sink : Sink} {name : String} {failure : Failure}
    (own : failure.Own heeds) : (sink.openFailure name failure).Own heeds := by
  unfold Sink.openFailure
  split
  · split
    · exact ⟨rfl, nofun⟩
    · exact Hushed.fault _
  · exact own

theorem hushed_write (handle : Handle) (set : ResultSet) :
    Hushed heeds (handle.writeOrFail set) := by
  refine Hushed.read.bind fun w => ?_
  split
  · exact .fail ⟨rfl, nofun⟩
  · unfold Handle.write
    exact (Hushed.modify (by simp) (by simp)).bind fun _ =>
      (Hushed.ofFault _).bind fun _ => .pure _

theorem surfaces_dump (sink : Sink) (t : Template) (release : Release) :
    Surfaces heeds .plain (dump sink t release) :=
  ((hushed_open sink t.name).rescue fun _ own => .fail (openFailure_own own)).andThen fun handle =>
    (Hushed.ofExcept fun _ => render_own).andThen fun _ =>
      Surfaces.andThen (.fetch fun _ => rfl) fun set =>
        (hushed_write handle set).bind fun _ => (Hushed.log _ _).bind fun _ => .pure _

theorem surfaces_dumpAll (sink : Sink) (release : Release) (views : List Template) :
    Surfaces heeds .plain (dumpAll sink release views) := by
  induction views with
  | nil => exact (Hushed.pure _).surfaces
  | cons t rest ih =>
    exact (surfaces_dump sink t release).bind Handling.plain_steady fun _ =>
      ih.andThen fun names => .pure _

theorem surfaces_capabilities : Surfaces heeds .plain capabilities := by
  have superuser : Surfaces heeds .plain isSuperuser := by
    refine Surfaces.andThen (.rows fun _ => rfl) fun rows => ?_
    split
    · exact .pure _
    · exact (Hushed.firstCell rows).bind fun _ => .pure _
  exact superuser.bind Handling.plain_steady fun _ =>
    Surfaces.andThen (.rows fun _ => rfl) fun _ => .pure _

theorem surfaces_run (directory : Value) (quiet : Bool) :
    Surfaces heeds (.first asRelease .plain) (run directory quiet) := by
  unfold run
  refine (hushed_requireDirectory directory).andThen fun _ => ?_
  refine (surfaces_fetchRelease _).bindSends sends_fetchRelease fun release => ?_
  rw [Handling.after_first]
  split
  -- Where the release is printed, that comes first; the rest is the same.
  refine (Hushed.printLine _).andThen fun _ => ?_
  all_goals
    refine surfaces_capabilities.bind Handling.plain_steady fun granted => ?_
    refine Hushed.andThen (.forM fun _ => .log _ _) fun _ => ?_
    split
    · exact (Hushed.pure _).surfaces
    · exact surfaces_dumpAll _ _ _
    · exact (Hushed.fail (Hushed.fault _)).surfaces

end Snapshot

/-! ## The monitor -/

namespace Monitor

theorem surfaces_checkAvailable (domain : Domain) (release : Release) :
    Surfaces heeds .plain (checkAvailable domain release) := by
  unfold checkAvailable
  split
  · exact (Hushed.ofFault _).surfaces
  · refine (Hushed.ofExcept fun _ => require_own).andThen fun _ => ?_
    split
    · refine Surfaces.andThen (.rows fun _ => rfl) fun rows => ?_
      split
      · exact .fail ⟨rfl, nofun⟩
      · exact .pure _
    · exact (Hushed.pure _).surfaces

namespace Collector

theorem surfaces_line (c : Collector) (shown : Record) :
    Surfaces heeds .plain (c.line shown) := by
  have sized : Surfaces heeds .plain (c.sizesOf shown) := by
    unfold sizesOf sizes
    split
    · dsimp only
      split
      · exact (Hushed.pure _).surfaces
      · refine Surfaces.andThen (.rows fun _ => rfl) fun rows => ?_
        split
        · exact .ofFault _
        · exact .pure _
    · exact (Hushed.pure _).surfaces
  rw [line_eq]
  exact sized.andThen fun _ => .ofFault _

theorem surfaces_read (c : Collector) : Surfaces heeds .plain c.read :=
  Surfaces.andThen (.fetch fun _ => rfl) fun _ => .ofFault _

/-- The lines of records; the first failure ends everything. -/
def emit (c : Collector) : List Record → Run (Collector × List String)
  | [] => pure (c, [])
  | record :: rest => do
    let (engine, line) ← c.engine.advance record c.line
    let (c, lines) ← emit { c with engine := engine } rest
    return (c, line :: lines)

theorem surfaces_emit (c : Collector) (records : List Record) :
    Surfaces heeds .plain (c.emit records) := by
  induction records generalizing c with
  | nil => exact (Hushed.pure _).surfaces
  | cons record rest ih =>
    have advances : Surfaces heeds .plain (c.engine.advance record c.line) :=
      (surfaces_line c _).andThen fun _ => .pure _
    exact advances.bind Handling.plain_steady fun _ => (ih _).andThen fun _ => .pure _

/-- What a sample gives back. -/
def given (sampled : Collector × Except Failure (List String)) : Run (Collector × List String) := do
  return (sampled.1, ← Run.ofExcept sampled.2)

theorem perform_given (c : Collector) (records : List Record) (w : Surroundings) (s : Session) :
    (c.advance records >>= given).perform w s = (c.emit records).perform w s := by
  induction records generalizing c s with
  | nil => rfl
  | cons record rest ih =>
    rw [advance, emit, bind_assoc, perform_bind, perform_attempt, perform_bind]
    rcases (c.engine.advance record c.line).perform w s with
      ⟨(failure | -) | ⟨engine, line⟩, s'⟩
    · rfl
    · rfl
    · have others := ih { c with engine := engine } s'
      simp only [bind_assoc, pure_bind]
      rw [perform_bind, perform_bind, ← others, perform_bind]
      -- Whatever the other lines are, or the failure in their place, this one comes first.
      rcases (advance { c with engine := engine } rest).perform w s' with
        ⟨stop | ⟨c', failure | lines⟩, s''⟩ <;> rfl

/-- A sample reads and makes lines of what was read. -/
theorem perform_source_sample (c : Collector) (w : Surroundings) (s : Session) :
    (source.sample c).perform w s = (c.read >>= c.emit).perform w s := by
  show (c.sample >>= given).perform w s = _
  rw [sample, bind_assoc, perform_bind, perform_attempt, perform_bind]
  rcases c.read.perform w s with ⟨(failure | -) | records, s'⟩
  · rfl
  · rfl
  · exact perform_given c records w s'

theorem surfaces_sample (c : Collector) : Surfaces heeds .plain (source.sample c) :=
  .congr (perform_source_sample c)
    ((surfaces_read c).bind Handling.plain_steady (surfaces_emit c))

end Collector

end Monitor

/-! ## The report -/

namespace Report

/-- A server that refuses to create a schema because it is there leaves it to its owner. -/
def asClaim (statement : Statement) : Failure → Option Failure
  | .query message sql code =>
    if statement.sql = Report.createSchema ∧ code = some duplicateSchema then
      some (.config .schemaExists)
    else some (.query message sql code)
  | failure => some failure

theorem asClaim_query {statement : Statement} {code : Option String}
    (other : statement.sql = Report.createSchema → code ≠ some duplicateSchema)
    (message sql : String) :
    asClaim statement (.query message sql code) = some (.query message sql code) := by
  rw [asClaim, if_neg fun both => other both.1 both.2]

theorem asClaim_taken (message sql : String) :
    asClaim (.plain Report.createSchema) (.query message sql (some duplicateSchema)) =
      some (.config .schemaExists) := by
  simp only [asClaim, Statement.plain, and_self, if_true]

theorem asClaim_spares {rest : Handling} (spares : rest.Spares (.plain Report.dropSchema)) :
    (Handling.first asClaim rest).Spares (.plain Report.dropSchema) := by
  intro earlier failure
  cases earlier with
  | nil =>
    cases failure with
    | query message sql code =>
      rw [Handling.first_nil]
      exact asClaim_query (fun same => absurd same (by decide)) message sql
    | _ => rfl
  | cons _ earlier => exact spares earlier failure

theorem surfaces_claimSchema (rest : Handling) :
    Surfaces heeds (.first asClaim rest) claimSchema := by
  unfold claimSchema Run.execute
  simp only [bind_pure_comp]
  refine Surfaces.andThen (.handled (fun failure reported => .inl ?_) fun _ => rfl)
    fun _ => .hold _
  rw [Handling.first_nil]
  cases failure with
  | query message sql code =>
    cases code with
    | none =>
      refine ⟨_, asClaim_query ?_ message sql, rfl, rfl⟩
      exact fun _ => nofun
    | some code =>
      by_cases there : code = duplicateSchema
      · subst there
        exact ⟨_, asClaim_taken message sql, rfl, if_pos rfl⟩
      · exact ⟨_, asClaim_query (fun _ same => there (Option.some.inj same)) message sql, rfl,
          if_neg there⟩
  | fault | driver | exit => cases reported
  | _ => exact ⟨_, rfl, rfl, rfl⟩

theorem sends_claimSchema : Sends claimSchema [.plain Report.createSchema] := by
  intro w s a s' returned
  obtain ⟨reply, went, -⟩ := claimSchema_returns returned
  exact ⟨_, went.exchanges, rfl⟩

theorem surfaces_provideExtension (name : String) :
    Surfaces heeds .plain (provideExtension name) := by
  have installs : Surfaces heeds .plain (installExtension name) := by
    unfold installExtension
    refine Surfaces.bind Handling.plain_steady (.rows fun _ => rfl) fun rows => ?_
    split
    · exact ((Hushed.log _ _).bind fun _ => .pure _).surfaces
    · refine (Hushed.firstCell _).andThen fun cell => ?_
      split
      · exact Surfaces.andThen (.execute fun _ => rfl) fun _ =>
          (Hushed.log _ _).bind fun _ => .pure _
      · exact (Hushed.pure _).surfaces
  refine installs.andThen fun found => ?_
  split
  · exact .hold _
  · exact .pure _

theorem surfaces_fetchSection (release : Release) (s : Report.Section) :
    Surfaces heeds .plain (fetchSection release s) := by
  unfold fetchSection
  split
  · exact .fetch fun _ => rfl
  · exact (Hushed.ofFault _).surfaces

theorem surfaces_printSection (request : Request) (release : Release) (s : Report.Section) :
    Surfaces heeds .plain (printSection request release s) := by
  have paragraph : ∀ text, Hushed heeds (printParagraph text) := fun _ =>
    (Hushed.printLine _).bind fun _ => .printLine _
  refine Hushed.get.andThen fun session => ?_
  split
  · exact (paragraph _).surfaces
  · split
    · exact (paragraph _).surfaces
    · refine (surfaces_fetchSection release _).andThen fun set => ?_
      have text : Hushed heeds (valueText set) := by
        unfold valueText
        split
        · exact .pure _
        · exact (Hushed.firstCell _).bind fun _ => .ofFault _
      exact text.bind fun _ => paragraph _
    · exact (surfaces_fetchSection release _).andThen fun set =>
        (Hushed.ofFault _).bind fun _ => .printLine _

theorem surfaces_printSections (request : Request) (release : Release)
    (sections : List Report.Section) :
    Surfaces true .plain (printSections request release sections) := by
  induction sections with
  | nil => exact (Hushed.pure _).surfaces
  | cons s rest ih =>
    refine Hushed.shutdownWanted.andThen fun _ => .unlessFails ⟨rfl, fun _ => rfl⟩ ?_
    exact (surfaces_printSection request release s).bind Handling.plain_steady fun _ => ih

theorem removes_teardown : Removes teardown := by
  intro w s
  rw [teardown, perform_bind, perform_get]
  simp only
  split
  · exact (Removes.execute rfl).bind (fun _ => .quiet (.hold _) fun _ _ => rfl) w s
  · exact ⟨[], .rest, .removed .done⟩

theorem tidies_dropAfterFailure : Tidies dropAfterFailure := by
  intro w s
  rw [dropAfterFailure, perform_bind, perform_get]
  simp only
  split
  · exact removes_teardown.tidies "could not drop schema after failure: " w s
  · exact ⟨[], s, rfl, .rest, .done⟩

theorem surfaces_build (request : Request) (release : Release) :
    Surfaces true (.first asClaim .plain) (build request release) := by
  unfold build setup
  simp only [bind_assoc]
  refine (surfaces_claimSchema _).bindSends sends_claimSchema fun _ => ?_
  rw [Handling.after_first]
  refine Surfaces.bind Handling.plain_steady (.execute fun _ => rfl) fun _ => ?_
  refine (Surfaces.forM Handling.plain_steady surfaces_provideExtension).bind
    Handling.plain_steady fun _ => ?_
  have helpers : Surfaces true .plain (Report.helperObjects.forM Run.execute) :=
    .forM Handling.plain_steady fun _ => .execute fun _ => rfl
  refine helpers.bind Handling.plain_steady fun _ => ?_
  exact (Hushed.ofFault _).andThen fun _ => surfaces_printSections request release _

theorem surfaces_teardown (spares : h.Spares (.plain Report.dropSchema)) :
    Surfaces heeds h teardown := by
  refine Hushed.get.andThen fun s => ?_
  split
  · exact Surfaces.andThen (.execute (spares [])) fun _ => .hold _
  · exact (Hushed.pure _).surfaces

theorem surfaces_run (request : Request) :
    Surfaces true (.first asRelease (.first asClaim .plain)) (run request) := by
  refine (surfaces_fetchRelease _).bindSends sends_fetchRelease fun release => ?_
  rw [Handling.after_first]
  refine ((surfaces_build request release).cleanup tidies_dropAfterFailure).bindAfter
    fun w s a new _ _ => ?_
  exact surfaces_teardown ((asClaim_spares (Handling.plain_spares _)).after _)

end Report

/-! ## The trace -/

namespace Trace

/-- A helper that refuses the process leaves the trace of its query out. -/
def skipping (t : Target) : Handling
  | _, statement, .query message sql code =>
    if statement.sql = t.helperQuery.sql ∧ code = some refusal then none
    else some (.query message sql code)
  | _, _, failure => some failure

theorem skipping_steady (t : Target) : (skipping t).Steady := by
  intro sent
  funext earlier statement failure
  cases failure <;> rfl

theorem skipping_query {t : Target} {statement : Statement} {code : Option String}
    (other : statement.sql = t.helperQuery.sql → code ≠ some refusal)
    (earlier : List Statement) (message sql : String) :
    skipping t earlier statement (.query message sql code) = some (.query message sql code) := by
  rw [skipping, if_neg fun both => other both.1 both.2]

theorem skipping_taken (t : Target) (earlier : List Statement) (message sql : String) :
    skipping t earlier t.helperQuery (.query message sql (some refusal)) = none := by
  rw [skipping, if_pos ⟨rfl, rfl⟩]

theorem skipping_spares {t : Target} {statement : Statement}
    (other : statement.sql ≠ t.helperQuery.sql) : (skipping t).Spares statement := by
  intro earlier failure
  cases failure with
  | query message sql code => exact skipping_query (fun same => absurd same other) ..
  | _ => rfl

theorem surfaces_poll (t : Target) : Surfaces heeds (skipping t) (poll t) := by
  have other : t.activityQuery.sql ≠ t.helperQuery.sql := by
    intro same
    simpa [same] using texts_nodup t ⟨.null, .null, .null⟩
  refine Surfaces.andThen (.rows (skipping_spares other [])) fun rows => ?_
  split
  · exact (Hushed.printLine _).bind fun _ => .fail ⟨rfl, nofun⟩
  · refine (Hushed.ofFault _).bind fun query => ?_
    cases query with
    | none => exact .pure _
    | some q => exact (Hushed.printValue _ _).bind fun _ => .pure _
  · exact .pure _

theorem surfaces_callHelper (t : Target) (processes : Value) :
    Surfaces heeds (skipping t) (callHelper t processes) := by
  unfold callHelper Run.rows
  simp only [bind_pure_comp, Functor.map_map]
  refine .handled (fun failure reported => ?_) fun _ => rfl
  cases failure with
  | query message sql code =>
    cases code with
    | none =>
      refine .inl ⟨_, skipping_query ?_ [] message sql, rfl, rfl⟩
      exact fun _ => nofun
    | some code =>
      by_cases refuses : code = refusal
      · subst refuses
        refine .inr ⟨skipping_taken t [] message sql, ?_, fun w s => ⟨none, ?_⟩⟩
        · simp only [if_true]
          exact (Hushed.log _ _).bind fun _ => .pure _
        · rfl
      · exact .inl ⟨_, skipping_query (fun _ same => refuses (Option.some.inj same)) [] message sql,
          rfl, if_neg refuses⟩
  | fault | driver | exit => cases reported
  | _ => exact .inl ⟨_, rfl, rfl, rfl⟩

theorem surfaces_gather (t : Target) : Surfaces heeds (skipping t) (gather t) := by
  have other : t.workersQuery.sql ≠ t.helperQuery.sql := by
    intro same
    simpa [same] using texts_nodup t ⟨.null, .null, .null⟩
  rw [gather_eq]
  split
  · exact (Surfaces.andThen (.rows (skipping_spares other [])) fun _ => .firstCell _).bind
      (skipping_steady t) (surfaces_callHelper t)
  · exact (Hushed.pure _).andThen (surfaces_callHelper t)

theorem surfaces_report (t : Target) (q : Query) (f : Findings) :
    Surfaces heeds (skipping t) (report q f) := by
  have other : (durationQuery q).sql ≠ t.helperQuery.sql := by
    intro same
    simpa [same] using texts_nodup t q
  refine Surfaces.andThen (.rows (skipping_spares other [])) fun rows => ?_
  refine (Hushed.ofFault _).bind fun durations => (Hushed.printValue _ _).bind fun _ =>
    (Hushed.printValue _ _).bind fun _ => ?_
  have shown : Hushed heeds (do
      let histogram ← Run.ofFault (Histogram.ofRows f.rows)
      Run.printLine (← Run.ofFault histogram.render)
      return histogram) :=
    (Hushed.ofFault _).bind fun _ => (Hushed.ofFault _).bind fun _ =>
      (Hushed.printLine _).bind fun _ => .pure _
  -- The number of processes is printed where it was counted.
  split
  · exact (Hushed.printValue _ _).bind fun _ => shown
  · exact shown

theorem surfaces_trace (t : Target) (q : Query) : Surfaces heeds (skipping t) (trace t q) := by
  refine (surfaces_gather t).bind (skipping_steady t) fun findings => ?_
  cases findings with
  | none => exact (Hushed.pure _).surfaces
  | some f => exact (surfaces_report t q f).andThen fun _ => .pure _

theorem surfaces_watch (t : Target) (fuel : Nat) :
    Surfaces true (skipping t) (watch t fuel) := by
  induction fuel with
  | zero => exact Hushed.unfinished.surfaces
  | succ fuel ih =>
    have rests : Surfaces true (skipping t) (do
        Run.sleep (.float pollInterval)
        watch t fuel) := (Hushed.sleep _).andThen fun _ => ih
    refine Hushed.shutdownWanted.andThen fun _ => .unlessFails ⟨rfl, fun _ => rfl⟩ ?_
    refine (surfaces_poll t).bind (skipping_steady t) fun found => ?_
    cases found with
    | none => exact rests
    | some q => exact (surfaces_trace t q).bind (skipping_steady t) fun _ => rests

theorem surfaces_run (t : Target) : Surfaces true (skipping t) (run t) :=
  (Hushed.ofFault _).andThen fun _ => (Hushed.printLine _).andThen fun _ =>
    Hushed.read.andThen fun w => surfaces_watch t w.patience

/-! ## The helper of a trace -/

theorem surfaces_install (workers : Bool) (rest : Handling) :
    Surfaces heeds (rest.behind 3) (install workers) := by
  refine (Hushed.hold _).andThen fun _ => ?_
  refine (Surfaces.execute fun _ => rfl).bindSends (sends_execute createTable) fun _ => ?_
  refine (Hushed.log _ _).andThen fun _ => ?_
  refine Surfaces.bindSends (.execute fun _ => rfl) (sends_execute createSchema) fun _ => ?_
  exact Surfaces.andThen (.execute fun _ => rfl) fun _ => .log _ _

/-- The statements that install the helper. -/
def helperStatements (workers : Bool) : List Statement :=
  [.plain createTable, .plain createSchema, .plain (createFunction workers)]

theorem sends_guarded (workers : Bool) :
    Sends (guarded (install workers)) (helperStatements workers) := by
  intro w s a s' returned
  have installed : (install workers).perform w s = (.ok a, s') := by
    refine of_rescue_returns ?_ returned
    intro failure s₁ s₂ a returned
    obtain ⟨⟨⟩, s₃, -, failed⟩ := of_bind_returns returned
    cases failed
  obtain ⟨table, schema, function, -, exchanges⟩ := install_returns installed
  exact ⟨_, exchanges, rfl⟩

theorem removes_drop : Removes drop :=
  (Removes.execute rfl).bind fun _ => (Removes.execute rfl).bind fun _ =>
    (Removes.quiet (.hold _) fun _ _ => rfl).bind fun _ =>
      .quiet (.log _ _) fun _ _ => rfl

theorem tidies_dropAfterFailure : Tidies dropAfterFailure := by
  intro w s
  rw [dropAfterFailure, perform_bind, perform_get]
  simp only
  split
  · split
    · obtain ⟨signals, logs⟩ := Stretch.note (w := w) (s := s)
        (.logged .warning ("connection lost, schema " ++ schema ++ " could not be dropped")) rfl
      exact ⟨_, _, rfl, .of_passage logs.toPassage, .of_silent logs.silent⟩
    · exact removes_drop.tidies ("could not drop schema " ++ schema ++ ": ") w s
  · exact ⟨[], s, rfl, .rest, .done⟩

theorem surfaces_drop (schema : h.Spares (.plain dropSchema))
    (table : h.Spares (.plain dropTable)) : Surfaces heeds h drop := by
  refine Surfaces.bindAfter (.execute (schema [])) fun w s _ new _ _ => ?_
  exact Surfaces.andThen (.execute (table _)) fun _ =>
    (Hushed.hold _).bind fun _ => .log _ _

theorem surfaces_withHelper {α : Type} (workers : Bool) {body : Run α}
    (surfaces : Surfaces heeds h body) (schema : h.Spares (.plain dropSchema))
    (table : h.Spares (.plain dropTable)) :
    Surfaces heeds (h.behind 3) (withHelper workers body) := by
  refine ((surfaces_install workers h).cleanup tidies_dropAfterFailure).bindSends
    (sends_guarded workers) fun _ => ?_
  refine Surfaces.bindAfter (surfaces.cleanup tidies_dropAfterFailure) fun w s a new _ _ => ?_
  exact (surfaces_drop (schema.after _) (table.after _)).andThen fun _ => .pure _

end Trace

/-! ## The free space map -/

namespace FreeSpace

theorem surfaces_display (relation : Value) (groups : Int) :
    Surfaces heeds .plain (display relation groups) := by
  have size : Surfaces heeds .plain fetchBlockSize :=
    Surfaces.andThen (.rows fun _ => rfl) fun _ =>
      (Hushed.firstCell _).bind fun _ => (Hushed.ofFault _).bind fun _ =>
        (Hushed.logWritten _ _).bind fun _ => .pure _
  refine .unlessFails ⟨rfl, nofun⟩ (Surfaces.bind Handling.plain_steady (.rows fun _ => rfl)
    fun _ => .unlessFails ⟨rfl, nofun⟩ (size.bind Handling.plain_steady fun _ =>
      Surfaces.andThen (.rows fun _ => rfl) fun _ => ?_))
  exact (Hushed.ofFault _).bind fun _ => (Hushed.ofFault _).bind fun _ =>
    (Hushed.printLine _).bind fun _ => (Hushed.ofFault _).bind fun _ =>
    (Hushed.printLine _).bind fun _ => (Hushed.printLine _).bind fun _ =>
    (Hushed.printLine _).bind fun _ => (Hushed.ofFault _).bind fun _ =>
    (Hushed.ofFault _).bind fun _ => (Hushed.printLine _).bind fun _ =>
    (Hushed.printLine _).bind fun _ => .pure _

end FreeSpace

/-! ## All of them -/

/-- **No error of the driver escapes, and every refusal is told for what it is.** A refused
statement ends the run with what its refusal means, but for the four places: `asRelease`,
`Report.asClaim`, `Trace.skipping`, and the teardown of a report or a trace that has failed already.
A trace with a body of its own handles the refusals of the body as the body does. -/
theorem refusals_surface {α : Type} {body : Run α} (surfaces : Surfaces heeds h body)
    (schema : h.Spares (.plain Trace.dropSchema)) (table : h.Spares (.plain Trace.dropTable))
    (workers : Bool) (domain : Domain) (release : Release) (c : Monitor.Collector)
    (sink : Snapshot.Sink) (template : Template) (directory : Value) (quiet : Bool)
    (request : Report.Request) (t : Trace.Target) (relation : Value) (groups : Int) :
    Classifies false (.first asRelease .plain) fetchRelease ∧
      Classifies false .plain (Monitor.checkAvailable domain release) ∧
      Classifies false .plain (Monitor.Collector.source.sample c) ∧
      Classifies false .plain (Snapshot.dump sink template release) ∧
      Classifies false (.first asRelease .plain) (Snapshot.run directory quiet) ∧
      Classifies true (.first asRelease (.first Report.asClaim .plain)) (Report.run request) ∧
      Classifies heeds (h.behind 3) (Trace.withHelper workers body) ∧
      Classifies true (Trace.skipping t) (Trace.run t) ∧
      Classifies false .plain (FreeSpace.display relation groups) :=
  ⟨(surfaces_fetchRelease _).classifies,
    (Monitor.surfaces_checkAvailable domain release).classifies, c.surfaces_sample.classifies,
    (Snapshot.surfaces_dump sink template release).classifies,
    (Snapshot.surfaces_run directory quiet).classifies, (Report.surfaces_run request).classifies,
    (Trace.surfaces_withHelper workers surfaces schema table).classifies,
    (Trace.surfaces_run t).classifies, (FreeSpace.surfaces_display relation groups).classifies⟩

/-- The body that a trace really has: it watches the target. -/
theorem refusals_surface_watching :
    Classifies true ((Trace.skipping ⟨4711, .int 1, false⟩).behind 3)
      (Trace.withHelper false (Trace.run ⟨4711, .int 1, false⟩)) :=
  (refusals_surface (Trace.surfaces_run ⟨4711, .int 1, false⟩)
    (Trace.skipping_spares (by decide)) (Trace.skipping_spares (by decide)) false .bgwriter ⟨17, 0⟩
    ⟨.start ⟨[], false⟩, .plain "SELECT 1", false, false⟩ ⟨".", false⟩
    { domain := .bgwriter, name := "pg_stat_bgwriter", columns := [], sources := [] }
    (.text ".") false ⟨"shop", .list []⟩ ⟨4711, .int 1, false⟩ (.text "items") 20).2.2.2.2.2.2.1

end PgVitals
