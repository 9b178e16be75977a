import PgVitals.Proofs.Catalog.Parity
import PgVitals.Proofs.Snapshot.Dumps
/-!
# What a snapshot leaves behind

A snapshot dumps the views of its plan, and stops at the first dump that fails. Whichever that is,
the views before it are dumped, the file of that view holds what it held, and all other files are as
they were. Nothing is sent any more.

* `survey` is what is found out before views are dumped, and `run_eq` says that a snapshot is its
  survey and then the dumps. `asks_survey` and `files_survey` say that a survey makes and changes no
  file.
* `templates_named` says that the views of the program have files of different names, and
  `plan_dumpable` that whatever is planned can be asked for.
* `Shot` is a snapshot with what it meets, and `Frames` how it goes on once it is known what to
  dump. `Shot.frames` is the proof, for any plan.
* `grown_behind` is where the files of later views come in: they are not touched before their turn.

One failure leaves something behind in the file of its view: a row that cannot be written comes
behind those that can, which are in the file then. The directory is looked at once, in the
beginning. Nothing but the snapshot changes files meanwhile.
-/

namespace PgVitals.Snapshot

open PgVitals.Catalog PgVitals.Files

variable {sink : Sink} {release : Release} {d : Location} {t : Template} {w : Surroundings}
  {s s' : Session}

/-! ## A snapshot -/

/-- The views of the program have files of different names. -/
theorem templates_named : (∀ t ∈ Catalog.Snapshot.templates, FileName (t.name ++ ".csv")) ∧
    (Catalog.Snapshot.templates.map Template.name).Nodup := by
  decide +kernel

/-- What is dumped is supported by the release, so it can be asked for. -/
theorem plan_dumpable (release : Release) (granted : Capabilities) :
    Dumpable release (plan release granted Catalog.Snapshot.templates) where
  named t member := templates_named.1 t (List.mem_of_mem_filter member)
  renders t member := by
    have listed := List.mem_of_mem_filter member
    have kept := List.of_mem_filter member
    have supported : t.supports release = true := by
      by_contra lacking
      rw [skipReason?, if_pos (by simpa using lacking)] at kept
      cases kept
    exact Template.render_ok (Monitor.snapshot_sourced t listed) (Release.atLeast_iff.mp supported)
      .null
  distinct := templates_named.2.sublist (List.filter_sublist.map _)

/-- What is found out before views are dumped. -/
def survey (quiet : Bool) : Run (Release × Capabilities) := do
  let release ← Run.fetchRelease
  if !quiet then Run.printLine ("Detected release: " ++ release.text)
  let granted ← capabilities
  logSkips release granted Catalog.Snapshot.templates
  return (release, granted)

/-- A snapshot: the directory is looked at, the server is looked at, and the views are dumped. -/
theorem run_eq (directory : String) (quiet : Bool) :
    run (.text directory) quiet = (do
      requireDirectory (.text directory)
      let found ← survey quiet
      dumpAll ⟨directory, quiet⟩ found.1
        (plan found.1 found.2 Catalog.Snapshot.templates)) := by
  unfold run survey
  simp only [bind_assoc]
  refine congrArg (requireDirectory (.text directory) >>= ·) (funext fun _ => ?_)
  refine congrArg (Run.fetchRelease >>= ·) (funext fun release => ?_)
  -- A plan without views is dumped without a look at the directory, which makes no difference.
  split
  · simp only [bind_assoc, pure_bind]
    refine congrArg (Run.printLine _ >>= ·) (funext fun _ => ?_)
    refine congrArg (capabilities >>= ·) (funext fun granted => ?_)
    refine congrArg (logSkips release granted _ >>= ·) (funext fun _ => ?_)
    cases plan release granted Catalog.Snapshot.templates <;> rfl
  · simp only [bind_assoc, pure_bind]
    refine congrArg (capabilities >>= ·) (funext fun granted => ?_)
    refine congrArg (logSkips release granted _ >>= ·) (funext fun _ => ?_)
    cases plan release granted Catalog.Snapshot.templates <;> rfl

/-- Before views are dumped, the server is asked and nothing else is done. -/
theorem asks_survey (quiet : Bool) : Run.Asks (fun _ => True) (survey quiet) := by
  have superuser : Run.Asks (fun _ => True) isSuperuser := by
    refine (Run.Asks.rows trivial).bind fun rows => ?_
    split
    · exact .pure _
    · exact (Run.Asks.firstCell rows).bind fun cell => .pure _
  have capable : Run.Asks (fun _ => True) capabilities :=
    superuser.bind fun _ => (Run.Asks.rows trivial).bind fun _ => .pure _
  have skips (release : Release) (granted : Capabilities) :
      Run.Asks (fun _ => True) (logSkips release granted Catalog.Snapshot.templates) :=
    .forM fun text _ => .log .info text
  refine (Run.Asks.fetchRelease trivial).bind fun release => ?_
  have rest := capable.bind fun granted =>
    (skips release granted).bind fun _ => .pure (release, granted)
  split
  · exact (Run.Asks.printLine _).bind fun _ => rest
  · exact rest

theorem files_survey (quiet : Bool) : ((survey quiet).perform w s).2.files = s.files := by
  obtain ⟨new, stretch⟩ := (asks_survey quiet).stretch w s
  exact stretch.files

theorem perform_requireDirectory_missing {directory : Value}
    (missing : valueIsDirectory s.files directory = .ok false) :
    (requireDirectory directory).perform w s =
      (.error (.failed (.config (.missingDirectory directory.shown))), s) := by
  rw [requireDirectory, Run.perform_bind_ok Run.perform_get, missing]
  rfl

theorem perform_requireDirectory {directory : String}
    (found : s.files.find directory = .ok (.directory d)) :
    (requireDirectory (.text directory)).perform w s = (.ok (), s) := by
  have there : s.files.isDirectory directory = true := by rw [Tree.isDirectory, found]
  rw [requireDirectory, Run.perform_bind_ok Run.perform_get, valueIsDirectory, there]
  rfl

/-- A snapshot: where it goes, and what it meets. -/
structure Shot where
  sink : Sink
  surroundings : Surroundings
  session : Session

namespace Shot

/-- The outcome of a snapshot, and the session after it. -/
def outcome (x : Shot) : Except Stop (List String) × Session :=
  (run (.text x.sink.directory) x.sink.quiet).perform x.surroundings x.session

/-- What is found out before views are dumped, and the session then. -/
def found (x : Shot) : Except Stop (Release × Capabilities) × Session :=
  (survey x.sink.quiet).perform x.surroundings x.session

/-- A snapshot comes as far as to have dumped some views. -/
def Reaches (x : Shot) (release : Release) (start : Session) (before : List Template)
    (mid : Session) : Prop :=
  ∃ names, (dumpAll x.sink release before).perform x.surroundings start = (.ok names, mid)

/-- How a snapshot goes on that has found out what to dump. -/
structure Frames (x : Shot) (d : Location) (release : Release) (views : List Template)
    (start : Session) : Prop where
  untouched : start.files = x.session.files
  /-- It returns: every view is dumped. -/
  returns : ∀ names s', x.outcome = (.ok names, s') → names = views.map Template.name ∧
    ∃ entries : List Entry, entries.map Entry.view = views ∧
      Dumped x.sink.quiet release d start entries s'
  /-- It comes to a view: the views before it are dumped. -/
  comes : ∀ before t after mid, views = before ++ t :: after → x.Reaches release start before mid →
    ∃ entries : List Entry, entries.map Entry.view = before ∧
      Dumped x.sink.quiet release d start entries mid ∧
      -- The file of the view cannot be opened: nothing more happens.
      (∀ fault, mid.files.openAppend (x.sink.path t.name) = .error fault → ∃ reason,
        x.outcome = (.error (.failed (.sink (.notOpened (x.sink.path t.name) reason))), mid)) ∧
      -- The query brings nothing back: its file is there with what it held, and nothing is sent
      -- any more.
      (∀ opened statement, mid.files.openAppend (x.sink.path t.name) = .ok opened →
        t.render release .null = .ok statement →
        Run.answer? x.surroundings mid statement = none → ∃ failure s',
          x.outcome = (.error (.failed failure), s') ∧
          Tree.Grown start.files s'.files
            (entries.map (Entry.addition x.sink.quiet d start.files) ++ [(fileOf d t, "")]) ∧
          s'.exchanges = mid.exchanges ++ if mid.link = .up then
            [(statement, x.surroundings.reply mid.past statement)] else []) ∧
      -- A row of the answer cannot be written: its file ends with the rows in front of it, and
      -- nothing is sent any more.
      (∀ opened statement set, mid.files.openAppend (x.sink.path t.name) = .ok opened →
        t.render release .null = .ok statement →
        Run.answer? x.surroundings mid statement = some set →
        x.surroundings.writeRefusal = none → set.rows.all Csv.isWritable = false → ∃ s',
          x.outcome = (.error (.failed (.fault .tooLongToWrite)), s') ∧
          Tree.Grown start.files s'.files
            (entries.map (Entry.addition x.sink.quiet d start.files) ++ [(fileOf d t,
              Csv.block (!x.sink.quiet && Tree.isEmptyContent (mid.files.held (fileOf d t)))
                set)]) ∧
          s'.exchanges = mid.exchanges ++
            [(statement, x.surroundings.reply mid.past statement)])
  /-- It fails: at one of the views, and for one of four reasons. -/
  fails : ∀ stop s', x.outcome = (.error stop, s') → ∃ before t after mid,
    views = before ++ t :: after ∧ x.Reaches release start before mid ∧
      ((∃ fault, mid.files.openAppend (x.sink.path t.name) = .error fault) ∨
        (∃ statement, t.render release .null = .ok statement ∧
          Run.answer? x.surroundings mid statement = none) ∨
        (∃ reason, x.surroundings.writeRefusal = some reason) ∨
        ∃ statement set, t.render release .null = .ok statement ∧
          Run.answer? x.surroundings mid statement = some set ∧
          set.rows.all Csv.isWritable = false)

variable {x : Shot} {granted : Capabilities} {start : Session}

/-- Once it is known what to dump, a snapshot is the dumps. -/
theorem outcome_eq (directory : x.session.files.find x.sink.directory = .ok (.directory d))
    (found : x.found = (.ok (release, granted), start)) :
    x.outcome = (dumpAll x.sink release
      (plan release granted Catalog.Snapshot.templates)).perform x.surroundings start := by
  rw [outcome, run_eq, Run.perform_bind_ok (perform_requireDirectory directory),
    Run.perform_bind_ok found]

/-- The file of a view has not been touched before the view's turn. -/
theorem grown_behind {before after : List Template} {entries : List Entry} {mid : Session}
    {text : String} (distinct : ((before ++ t :: after).map Template.name).Nodup)
    (views : entries.map Entry.view = before)
    (dumped : Dumped x.sink.quiet release d start entries mid)
    (grown : Tree.Grown mid.files s'.files [(fileOf d t, text)]) :
    Tree.Grown start.files s'.files
      (entries.map (Entry.addition x.sink.quiet d start.files) ++ [(fileOf d t, text)]) := by
  refine dumped.files.append grown ?_
  intro addition member other single
  obtain ⟨e, earlier, rfl⟩ := List.mem_map.mp member
  obtain rfl := List.mem_singleton.mp single
  have first : e.view.name ∈ before.map Template.name := by
    rw [← views, List.map_map]
    exact List.mem_map_of_mem earlier
  rw [List.map_append, List.nodup_append] at distinct
  exact fun same => distinct.2.2 _ first _ List.mem_cons_self (fileOf_inj.mp same)

theorem frames (directory : x.session.files.find x.sink.directory = .ok (.directory d))
    (found : x.found = (.ok (release, granted), start)) :
    x.Frames d release (plan release granted Catalog.Snapshot.templates) start := by
  have dumpable := plan_dumpable release granted
  have outcome := outcome_eq directory found
  have untouched : start.files = x.session.files := by
    have files := files_survey (w := x.surroundings) (s := x.session) x.sink.quiet
    rw [← Shot.found, found] at files
    exact files
  have there : start.files.find x.sink.directory = .ok (.directory d) := by
    rw [untouched]
    exact directory
  generalize plan release granted Catalog.Snapshot.templates = views at dumpable outcome
  refine ⟨untouched, ?_, ?_, ?_⟩
  · intro names s' returned
    rw [outcome] at returned
    obtain ⟨listed, entries, -⟩ := dumpable.dumped there returned
    exact ⟨listed, entries⟩
  · rintro before t after mid rfl ⟨names, done⟩
    obtain ⟨-, ⟨entries, own, dumped⟩, still⟩ := dumpable.left.dumped there done
    have member : t ∈ before ++ t :: after := List.mem_append_right _ List.mem_cons_self
    have open_or_not := Tree.openAppend_join (dumpable.named t member) still
    have behind : ∀ {text} {s' : Session}, Tree.Grown mid.files s'.files [(fileOf d t, text)] →
        Tree.Grown start.files s'.files
          (entries.map (Entry.addition x.sink.quiet d start.files) ++ [(fileOf d t, text)]) :=
      fun grown => grown_behind dumpable.distinct own dumped grown
    refine ⟨entries, own, dumped, ?_, ?_, ?_⟩
    · intro fault refused
      rcases open_or_not with leads | ⟨fault', reason, refused', reported⟩
      · have opened := leads.openAppend
        rw [← Sink.path, refused] at opened
        cases opened
      · rw [← Sink.path, refused] at refused'
        cases refused'
        exact ⟨reason, outcome.trans (dumpAll_stops done (perform_dump_unopened refused reported))⟩
    · intro opened statement opens rendered none
      rcases open_or_not with leads | ⟨fault, reason, refused, -⟩
      · obtain ⟨failure, s', ends, files, exchanges⟩ :=
          perform_dump_unanswered leads rendered none
        exact ⟨failure, s', outcome.trans (dumpAll_stops done ends),
          behind (files ▸ Tree.grown_opened), exchanges⟩
      · rw [← Sink.path, opens] at refused
        cases refused
    · intro opened statement set opens rendered answer writable long
      rcases open_or_not with leads | ⟨fault, reason, refused, -⟩
      · obtain ⟨s', ends, files, exchanges⟩ :=
          perform_dump_answered leads rendered answer writable
        rw [writeOutcome, long, if_neg Bool.false_ne_true] at ends
        exact ⟨s', outcome.trans (dumpAll_stops done ends),
          behind (files ▸ Tree.grown_append), exchanges⟩
      · rw [← Sink.path, opens] at refused
        cases refused
  · intro stop s' failed
    rw [outcome] at failed
    obtain ⟨before, t, after, names, mid, rfl, done, fails⟩ := dumpAll_failed failed
    obtain ⟨-, -, still⟩ := dumpable.left.dumped there done
    have member : t ∈ before ++ t :: after := List.mem_append_right _ List.mem_cons_self
    have ends := dump_ends (w := x.surroundings) (dumpable.named t member)
      (dumpable.renders t member) still
    rw [fails] at ends
    refine ⟨before, t, after, mid, rfl, ⟨names, done⟩, ?_⟩
    cases ends with
    | unopened refused => exact .inl ⟨_, refused⟩
    | unanswered _ rendered none => exact .inr (.inl ⟨_, rendered, none⟩)
    | unwritten _ _ _ refused => exact .inr (.inr (.inl ⟨_, refused⟩))
    | cutShort _ rendered answer long => exact .inr (.inr (.inr ⟨_, _, rendered, answer, long⟩))

end Shot

/-- **A snapshot stops at the first view that fails, and leaves the files of the others alone.** A
directory that is not there is noticed before anything is sent or made. After that a snapshot that
returns has dumped every view of its plan. One that fails does so at some view, whose file could not
be opened or written, whose query brought nothing back, or one of whose rows cannot be written: then
the views before it are dumped, its own file holds what it held, below it in the last case the rows
in front of that one, and no statement follows. -/
theorem run_frames (x : Shot) :
    (valueIsDirectory x.session.files (.text x.sink.directory) = .ok false →
      x.outcome =
        (.error (.failed (.config (.missingDirectory x.sink.directory))), x.session)) ∧
    ∀ d, x.session.files.find x.sink.directory = .ok (.directory d) →
      (∀ stop s', x.found = (.error stop, s') →
        x.outcome = (.error stop, s') ∧ s'.files = x.session.files) ∧
      ∀ release granted start, x.found = (.ok (release, granted), start) →
        x.Frames d release (plan release granted Catalog.Snapshot.templates) start := by
  refine ⟨?_, ?_⟩
  · intro missing
    rw [Shot.outcome, run_eq]
    exact Run.perform_bind_error (perform_requireDirectory_missing missing)
  · intro d directory
    refine ⟨?_, fun release granted start found => Shot.frames directory found⟩
    intro stop s' failed
    have files := files_survey (w := x.surroundings) (s := x.session) x.sink.quiet
    rw [← Shot.found, failed] at files
    refine ⟨?_, files⟩
    rw [Shot.outcome, run_eq, Run.perform_bind_ok (perform_requireDirectory directory)]
    exact Run.perform_bind_error failed

/-- The answers, by how many came before, of a server that refuses the second view. -/
def archiverRefusals : Nat → Reply
  | 0 => { outcome := .result ⟨["version"], [[.text "PostgreSQL 16.2"]]⟩ }
  | 3 => { outcome := .result ⟨["pid"], [[.int 7]]⟩ }
  | 4 => { outcome := .refused ⟨.other, "permission denied", none, none⟩ }
  | _ => {}

/-- A snapshot on that server. -/
def refusedArchiver (directory : String) : Shot where
  sink := ⟨directory, false⟩
  surroundings := { reply := fun past _ => archiverRefusals (exchangesOf past).length }
  session := {}

/-- What comes before the refusal. -/
theorem refusedArchiver_reaches : ∃ start mid,
    (refusedArchiver "./").found = (.ok (⟨16, 2⟩, ⟨false, false⟩), start) ∧
      (refusedArchiver "./").Reaches ⟨16, 2⟩ start [Catalog.Snapshot.activity] mid ∧
      start.files.held ["pg_stat_archiver.csv"] = .text "" ∧
      mid.exchanges.length = 4 ∧ mid.link = .up ∧
      mid.files.find "./pg_stat_archiver.csv" = .ok (.vacant ["pg_stat_archiver.csv"]) := by
  let x := refusedArchiver "./"
  let first := (dumpAll x.sink ⟨16, 2⟩ [Catalog.Snapshot.activity]).perform x.surroundings x.found.2
  have released : x.found.1 = .ok (⟨16, 2⟩, ⟨false, false⟩) := by decide +kernel
  have named : first.1 = .ok ["pg_stat_activity"] := by decide +kernel
  refine ⟨x.found.2, first.2, ?_, ⟨["pg_stat_activity"], ?_⟩, ?_, ?_, ?_, ?_⟩
  · rw [← released]
  · rw [← named]
  · decide +kernel
  · decide +kernel
  · decide +kernel
  · decide +kernel

theorem run_frames_refusedArchiver :
    (refusedArchiver "nowhere").outcome =
        (.error (.failed (.config (.missingDirectory "nowhere"))), {}) ∧
      ∃ failure s', (refusedArchiver "./").outcome = (.error (.failed failure), s') ∧
        s'.files.content? ["pg_stat_archiver.csv"] = some (.text "") ∧
        s'.exchanges.length = 5 := by
  refine ⟨(run_frames (refusedArchiver "nowhere")).1 (by decide +kernel), ?_⟩
  obtain ⟨start, mid, found, reached, before, asked, up, vacant⟩ := refusedArchiver_reaches
  have planned : plan ⟨16, 2⟩ ⟨false, false⟩ Catalog.Snapshot.templates =
      [Catalog.Snapshot.activity] ++ Catalog.Snapshot.archiver ::
        (plan ⟨16, 2⟩ ⟨false, false⟩ Catalog.Snapshot.templates).drop 2 := rfl
  have directory : (refusedArchiver "./").session.files.find "./" = .ok (.directory []) := by
    decide +kernel
  have frames := ((run_frames (refusedArchiver "./")).2 [] directory).2 _ _ start found
  obtain ⟨entries, -, -, -, unanswered, -⟩ := frames.comes _ _ _ mid planned reached
  have opens := Tree.Leads.openAppend (.inr vacant)
  have since : Catalog.Snapshot.archiver.since ≤ ⟨16, 2⟩ := by decide
  have sourced : Catalog.Snapshot.archiver.isSourced = true := by decide
  obtain ⟨statement, rendered⟩ := Template.render_ok sourced since .null
  have reply : (refusedArchiver "./").surroundings.reply mid.past statement =
      archiverRefusals 4 := congrArg archiverRefusals asked
  have none : Run.answer? (refusedArchiver "./").surroundings mid statement = none := by
    rw [Run.answer?, if_pos up, reply]
    rfl
  obtain ⟨failure, s', ends, grown, exchanges⟩ := unanswered _ statement opens rendered none
  refine ⟨failure, s', ends, ?_, ?_⟩
  · have held := grown.grown (["pg_stat_archiver.csv"], "")
      (List.mem_append_right _ (List.mem_singleton_self _))
    rw [held, before]
    rfl
  · rw [exchanges, List.length_append, if_pos up, asked]
    rfl

end PgVitals.Snapshot
