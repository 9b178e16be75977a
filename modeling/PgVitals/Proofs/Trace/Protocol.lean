import PgVitals.Proofs.Catalog.Rendering
import PgVitals.Proofs.Trace.Places
import PgVitals.Proofs.Trace.Teardown
/-!
# The protocol of a trace

Which statements a trace sends in which order, and what follows each answer, whatever the server
answers and whenever signals arrive: a trace starts behind the release of the server, the helper
behind a poll that found a query, and the durations behind a helper that has returned; and of all
refusals only that of a target that is not active is not the end.

* `Installing` is what is said while the helper is installed, and `install_speaks` and `drop_speaks`
  are the grammars around the turns.
* `Conduct` is how a trace goes whose release was accepted, and `withHelper_speaks` that a trace
  goes so.
* `Gate` is what is asked behind the release, and how a trace ends whose server is too old.
* `Protocol` is all of it, clause by clause, and `Conduct.protocol` reads it off the places of the
  statements.

A refusal of the helper by which the target is not active leads to the next poll, unless the user
wants the end by then: the trace looks at the flag first. So the clause on that refusal has two
cases, and the last theorem of this file is a trace in which SIGINT arrives at that moment and no
poll follows.
-/

namespace PgVitals.Trace

variable {t : Target} {up : Bool} {words more : List Event} {result : Except Stop Unit}

/-! ## Around the turns -/

theorem Teardown.places (h : Teardown words) : Throughout (Place t result) words := by
  rintro before statement reply after rfl
  obtain ⟨other, answer, same, drops⟩ := h (.asked statement reply) (by simp)
  cases same
  exact .around (by simp [drops]) fun inner => absurd (List.mem_cons_of_mem _ drops) inner

/-- Dropping the helper says nothing but that. -/
theorem Teardown.execute_bind {sql : String} {f : Unit → Run Unit}
    (drops : sql ∈ dropping)
    (goes : ∀ left, Run.Speaks left (f ()) fun words _ => Teardown words) :
    Run.Speaks up (Run.execute sql >>= f) fun words _ => Teardown words := by
  have one : ∀ reply, Teardown [.asked (.plain sql) reply] := by
    intro reply event member
    exact ⟨_, _, List.mem_singleton.mp member, drops⟩
  refine .execute_bind (fun words stop sent => ?_) fun reply _ _ => ?_
  · cases sent with
    | unsent => exact .nil
    | refused => exact one _
  · exact (goes _).mono fun more result rest => (one reply).append rest

theorem drop_speaks (up : Bool) : Run.Speaks up drop fun words _ => Teardown words :=
  Teardown.execute_bind (by simp [dropping]) fun _ =>
    Teardown.execute_bind (by simp [dropping]) fun _ => .hold_bind (.log .nil)

theorem dropAfterFailure_speaks (up : Bool) :
    Run.Speaks up dropAfterFailure fun words result => Teardown words ∧ result = .ok () := by
  have drops : Run.Speaks up dropAfterFailure fun words _ => Teardown words := by
    unfold dropAfterFailure
    refine .get_bind fun s => ?_
    split
    · split
      · exact .log .nil
      · refine (drop_speaks up).rescue (fun _ _ h => h) (fun _ h => h) fun words failure h => ?_
        have still : Teardown (words ++ []) := h.append .nil
        split
        · exact .log still
        · rename_i untold
          exact .fail (by rintro rfl; exact untold rfl) still
    · exact .pure .nil
  intro w s opened
  obtain ⟨words, spoken, teardown, aware⟩ := drops w s opened
  exact ⟨words, spoken, ⟨teardown, dropAfterFailure_ok w s⟩, aware⟩

/-- What is said while the helper is installed. -/
def Installing (workers : Bool) : Grammar Unit := fun words result =>
  Throughout (fun _ statement reply after =>
    statement.sql ∈ installing workers ∧ ∀ error, reply.outcome = .refused error →
      after = [] ∧ result = .error (.failed (reply.meaning statement error))) words ∧
  ∀ stop, result = .error stop → ∃ failure, stop = .failed failure ∧ Ordinary failure

theorem Installing.done (workers : Bool) : Installing workers [] (.ok ()) :=
  ⟨.nil, fun _ same => by cases same⟩

theorem Installing.execute_bind {workers : Bool} {sql : String} {f : Unit → Run Unit}
    (installs : sql ∈ installing workers)
    (goes : ∀ left, Run.Speaks left (f ()) (Installing workers)) :
    Run.Speaks up (Run.execute sql >>= f) (Installing workers) := by
  refine .execute_bind (fun words stop sent => ?_) fun reply _ accepts => ?_
  · cases sent with
    | unsent =>
      exact ⟨.nil, fun stop same => ⟨_, (Except.error.inj same).symm, ordinary_meaning _ _ _⟩⟩
    | refused refuses =>
      refine ⟨.asked ⟨installs, fun error refused => ⟨rfl, ?_⟩⟩ .nil,
        fun stop same => ⟨_, (Except.error.inj same).symm, ordinary_meaning _ _ _⟩⟩
      cases refuses.symm.trans refused
      rfl
  · refine (goes _).mono fun more result rest => ⟨.asked ⟨installs, ?_⟩ rest.1, rest.2⟩
    intro error refuses
    exact absurd (accepts.symm.trans (Reply.accepts_refused refuses)) (by simp)

theorem install_speaks (workers up : Bool) :
    Run.Speaks up (install workers) (Installing workers) := by
  unfold install
  exact .hold_bind (Installing.execute_bind (by simp [installing]) fun _ => .log_bind
    (Installing.execute_bind (by simp [installing]) fun _ =>
      Installing.execute_bind (by simp [installing]) fun _ => .log (Installing.done workers)))

theorem Installing.places (h : Installing t.workers words result) :
    Throughout (Place t result) words := by
  refine h.1.mono fun before statement reply after place => ?_
  refine .around (by simp [place.1]) fun _ error refuses => ?_
  obtain ⟨rfl, ended⟩ := place.2 error refuses
  exact ⟨.nil, ended⟩

/-- The places do not depend on how the trace ends where no statement is refused. -/
theorem Installing.places_ok (h : Installing t.workers words (.ok ())) (more : List Event) :
    Throughout (fun before statement reply after =>
      Place t result before statement reply (after ++ more)) words := by
  refine h.1.mono fun before statement reply after place => ?_
  refine .around (by simp [place.1]) fun _ error refuses => ?_
  cases (place.2 error refuses).2

/-! ## Behind the release -/

/-- How a trace goes whose release was accepted. -/
structure Conduct (t : Target) (words : List Event) (result : Except Stop Unit) : Prop where
  places : Throughout (Place t result) words
  gone : ∀ pid, result = .error (.failed (.targetGone pid)) →
    pid = some t.pid ∧ ∃ before reply after,
      words = before ++ .asked t.activityQuery reply :: after ∧ Misses reply
  endless : result ≠ .ok ()

theorem Conduct.closed (h : Conduct t words result) (drops : Teardown more) :
    Conduct t (words ++ more) result where
  places := .append (h.places.mono fun _ _ _ _ place => place.closed drops)
    (drops.places.mono fun _ _ _ _ place => place.behind _)
  gone pid same := by
    obtain ⟨own, before, reply, after, rfl, misses⟩ := h.gone pid same
    exact ⟨own, before, reply, after ++ more, by simp, misses⟩
  endless := h.endless

theorem Conduct.behind (h : Conduct t more result)
    (first : Throughout (fun before statement reply after =>
      Place t result before statement reply (after ++ more)) words) :
    Conduct t (words ++ more) result where
  places := .append first (h.places.mono fun _ _ _ _ place => place.behind _)
  gone pid same := by
    obtain ⟨own, before, reply, after, rfl, misses⟩ := h.gone pid same
    exact ⟨own, words ++ before, reply, after, by simp, misses⟩
  endless := h.endless

/-- A failure that is not about the target needs no poll. -/
theorem Conduct.of_ordinary {failure : Failure}
    (places : Throughout (Place t (.error (.failed failure))) words) (ordinary : Ordinary failure) :
    Conduct t words (.error (.failed failure)) :=
  ⟨places, fun pid same => absurd (Stop.failed.inj (Except.error.inj same)) (ordinary pid), by simp⟩

theorem run_speaks (t : Target) (up : Bool) : Run.Speaks up (run t) (Conduct t) := by
  unfold run
  refine .ofFault_bind (fun fault _ => .of_ordinary .nil (ordinary_fault fault)) fun text _ => ?_
  refine .printLine_bind (.read_bind fun w => (watch_speaks t _ up).mono fun words result h => ?_)
  have watched : Conduct t words result :=
    ⟨h.places, fun pid same => by subst same; exact h.gone, h.endless⟩
  show Conduct t ([.printed _] ++ words) result
  exact watched.behind (.printed .nil)

/-- The helper is installed before the first turn and dropped behind the last one. -/
theorem withHelper_speaks (t : Target) (up : Bool) :
    Run.Speaks up (withHelper t.workers (run t)) (Conduct t) := by
  unfold withHelper
  refine ((install_speaks t.workers up).cleanup dropAfterFailure_speaks).bind ?_ ?_
  · rintro words stop ⟨said, closing, rfl, installing, cleaned⟩
    obtain ⟨failure, rfl, ordinary⟩ := installing.2 stop rfl
    have drops : Teardown closing := by
      obtain rfl | ⟨drops, -⟩ := cleaned
      · exact .nil
      · exact drops
    exact (Conduct.of_ordinary installing.places ordinary).closed drops
  · rintro words ⟨⟩ ⟨said, closing, rfl, installing, cleaned⟩
    obtain rfl | ⟨-, failure, same⟩ := cleaned
    · rw [List.append_nil]
      refine ((run_speaks t _).cleanup dropAfterFailure_speaks).bind ?_ ?_
      · rintro words stop ⟨turns, closing, rfl, conduct, cleaned⟩
        refine (conduct.closed ?_).behind (installing.places_ok _)
        obtain rfl | ⟨drops, -⟩ := cleaned
        · exact .nil
        · exact drops
      · rintro words ⟨⟩ ⟨turns, closing, rfl, conduct, -⟩
        exact absurd rfl conduct.endless
    · cases same

/-! ## The release -/

/-- The answer of a server that tells its release. -/
def Tells (answer : Reply) (release : Release) : Prop :=
  ∃ set cell cells rest, answer.set? = some set ∧ set.rows = (cell :: cells) :: rest ∧
    Release.ofCell cell = .ok release

/-- Asking for the release: over an open connection it is one statement, and what is not a release
ends the run. -/
inductive Released : Bool → Grammar Release
  | unsent {failure : Failure} (ordinary : Ordinary failure) :
      Released false [] (.error (.failed failure))
  | untold {answer : Reply} (unread : ∀ release, ¬ Tells answer release) {failure : Failure}
      (ordinary : Ordinary failure) :
      Released true [.asked releaseQuery answer] (.error (.failed failure))
  | told {answer : Reply} {release : Release} (tells : Tells answer release) :
      Released true [.asked releaseQuery answer] (.ok release)

/-- What is not a release is either unknown or no text at all. -/
theorem ofDigits_fails {major minor : List Char} {failure : Failure}
    (h : Release.ofDigits major minor = .error failure) : ∃ fault, failure = .fault fault := by
  unfold Release.ofDigits at h
  rcases hm : Release.readNumber major with fault | m <;> rw [hm] at h
  · cases h
    exact ⟨fault, rfl⟩
  · rcases hn : Release.readNumber minor with fault | n <;> rw [hn] at h
    · cases h
      exact ⟨fault, rfl⟩
    · cases h

theorem ofCell_fails {cell : Value} {failure : Failure} (h : Release.ofCell cell = .error failure) :
    (∃ fault, failure = .fault fault) ∨ ∃ cause, failure = .releaseUnknown cause := by
  unfold Release.ofCell at h
  split at h
  · unfold Release.ofIdentification at h
    split at h
    · cases h
      exact .inr ⟨_, rfl⟩
    · split at h
      · exact .inl (ofDigits_fails h)
      · cases h
        exact .inr ⟨_, rfl⟩
  · split at h <;> cases h
    · exact .inl ⟨_, rfl⟩
    · exact .inr ⟨_, rfl⟩

/-- Where the query for the release fails, and the failure gets another name. -/
theorem Released.of_sent {up : Bool} {words : List Event} {failure named : Failure}
    (sent : Sent releaseQuery up words (.error (.failed failure))) (ordinary : Ordinary named) :
    Released up (words ++ []) (.error (.failed named)) := by
  cases sent with
  | unsent => exact .unsent ordinary
  | refused refuses =>
    refine .untold ?_ ordinary
    rintro release ⟨set, cell, cells, rest, brings, -⟩
    cases brings.symm.trans (Reply.set?_of_refused refuses)

theorem fetchRelease_speaks (up : Bool) : Run.Speaks up Run.fetchRelease (Released up) := by
  unfold Run.fetchRelease
  refine .rows_rescue_bind (fun words failure sent => ?_) fun reply set opened brings => ?_
  · -- Only the name of the failure is another one.
    have ordinary : Ordinary failure ∧ failure ≠ .interrupted .signal := by
      cases sent with
      | unsent | refused => exact ⟨ordinary_meaning _ _ _, Run.meaning_ne_signal _ _ _⟩
    split
    · exact .fail_bind (by simp) (.of_sent sent fun pid => by simp)
    · exact .fail_bind ordinary.2 (.of_sent sent ordinary.1)
  · subst opened
    have unread : (∀ cell cells rest release, set.rows = (cell :: cells) :: rest →
        Release.ofCell cell ≠ .ok release) → ∀ release, ¬ Tells reply release := by
      rintro none release ⟨other, cell, cells, rest, brought, shape, read⟩
      cases brings.symm.trans brought
      exact none cell cells rest release shape read
    split
    · rename_i empty
      refine .fail (by simp) (.untold (unread ?_) fun pid => by simp)
      intro cell cells rest release shape
      rw [shape] at empty
      cases empty
    · by_cases shape : ∃ cell cells rest, set.rows = (cell :: cells) :: rest
      · obtain ⟨cell, cells, rest, shape⟩ := shape
        rw [shape]
        refine .ofExcept_bind (fun failure refused => ?_) fun release read =>
          .log_bind (.pure (.told ⟨set, cell, cells, rest, brings, shape, read⟩))
        have none : ∀ release, ¬ Tells reply release := by
          refine unread fun other others more release found read => ?_
          cases shape.symm.trans found
          cases refused.symm.trans read
        obtain ⟨fault, rfl⟩ | ⟨cause, rfl⟩ := ofCell_fails refused
        · exact ⟨by simp, .untold none (ordinary_fault fault)⟩
        · exact ⟨by simp, .untold none fun pid => by simp⟩
      · refine .firstCell_bind (.untold (unread ?_) (ordinary_fault _)) fun cell cells rest found =>
          absurd ⟨cell, cells, rest, found⟩ shape
        exact fun cell cells rest _ found => absurd ⟨cell, cells, rest, found⟩ shape

/-- What is asked behind the release, and how a trace ends whose server is too old. -/
structure Gate (t : Target) (version : Reply) (rest : List Event) (result : Except Stop Unit) :
    Prop where
  /-- Nothing more is said unless the server can run the helper. -/
  supported : rest ≠ [] → ∃ release, Tells version release ∧ (⟨10, 0⟩ : Release) ≤ release ∧
    (t.workers = true → (⟨13, 0⟩ : Release) ≤ release)
  tooLow : ∀ release, Tells version release → ¬ (⟨10, 0⟩ : Release) ≤ release →
    result = .error (.failed (.releaseTooLow "the wait-event tracer" ⟨10, 0⟩))
  tooLowForWorkers : ∀ release, Tells version release → (⟨10, 0⟩ : Release) ≤ release →
    t.workers = true → ¬ (⟨13, 0⟩ : Release) ≤ release →
    result = .error (.failed (.releaseTooLow "including leader and workers' wait events" ⟨13, 0⟩))

/-- A server tells one release. -/
theorem Tells.unique {answer : Reply} {release other : Release} (h : Tells answer release)
    (h' : Tells answer other) : release = other := by
  obtain ⟨set, cell, cells, rest, brings, shape, read⟩ := h
  obtain ⟨set', cell', cells', rest', brings', shape', read'⟩ := h'
  cases brings.symm.trans brings'
  cases shape.symm.trans shape'
  cases read.symm.trans read'
  rfl

/-- A trace that has not got beyond the release. -/
theorem Gate.of_unread {version : Reply} (unread : ∀ release, ¬ Tells version release) :
    Gate t version [] result :=
  ⟨fun more => absurd rfl more, fun release tells => absurd tells (unread release),
    fun release tells => absurd tells (unread release)⟩

theorem Gate.of_refused {version : Reply} {release : Release} {failure : Failure}
    (tells : Tells version release) (refused : checkRelease t.workers release = .error failure) :
    Gate t version [] (.error (.failed failure)) := by
  unfold checkRelease at refused
  refine ⟨fun more => absurd rfl more, fun other told low => ?_,
    fun other told high group low => ?_⟩
  · obtain rfl := tells.unique told
    rw [← Release.atLeast_iff, Bool.not_eq_true] at low
    rw [low] at refused
    cases refused
    rfl
  · obtain rfl := tells.unique told
    rw [← Release.atLeast_iff] at high
    rw [← Release.atLeast_iff, Bool.not_eq_true] at low
    rw [high, low, group] at refused
    cases refused
    rfl

theorem Gate.of_accepted {version : Reply} {release : Release} (tells : Tells version release)
    (accepted : checkRelease t.workers release = .ok ()) : Gate t version words result := by
  have fit : (⟨10, 0⟩ : Release) ≤ release ∧
      (t.workers = true → (⟨13, 0⟩ : Release) ≤ release) := by
    unfold checkRelease at accepted
    split at accepted
    · cases accepted
    · rename_i high
      split at accepted
      · cases accepted
      · rename_i fit
        refine ⟨Release.atLeast_iff.mp (by simpa using high), fun group => ?_⟩
        exact Release.atLeast_iff.mp (by simpa [group] using fit)
  refine ⟨fun _ => ⟨release, tells, fit⟩, fun other told low => ?_,
    fun other told _ group low => ?_⟩
  · obtain rfl := tells.unique told
    exact absurd fit.1 low
  · obtain rfl := tells.unique told
    exact absurd (fit.2 group) low

/-- Over a closed connection nothing is said; over an open one the release comes first. -/
def Gated (t : Target) (words : List Event) (result : Except Stop Unit) : Prop :=
  words = [] ∨ ∃ version rest, words = .asked releaseQuery version :: rest ∧
    Gate t version rest result

theorem place_release {before after : List Event} {version : Reply} :
    Place t result before releaseQuery version after :=
  .around (by simp) fun inner => absurd (by simp) inner

theorem start_speaks (t : Target) (up : Bool) :
    Run.Speaks up (start t) fun words result => Conduct t words result ∧ Gated t words result := by
  unfold start
  refine (fetchRelease_speaks up).bind (fun words stop released => ?_)
    fun words release released => ?_
  · cases released with
    | unsent ordinary => exact ⟨.of_ordinary .nil ordinary, .inl rfl⟩
    | untold unread ordinary =>
      exact ⟨.of_ordinary (.asked place_release .nil) ordinary, .inr ⟨_, _, rfl, .of_unread unread⟩⟩
  · cases released with
    | told tells =>
      refine .ofExcept_bind (fun failure refused => ?_) fun _ accepted =>
        (withHelper_speaks t _).mono fun more result conduct =>
          ⟨conduct.behind (.asked place_release .nil),
            .inr ⟨_, _, rfl, .of_accepted tells accepted⟩⟩
      -- A release that is too low is the only failure there is.
      have low : ∃ feature required, failure = .releaseTooLow feature required := by
        unfold checkRelease at refused
        split at refused
        · cases refused
          exact ⟨_, _, rfl⟩
        · split at refused <;> cases refused
          exact ⟨_, _, rfl⟩
      obtain ⟨feature, required, rfl⟩ := low
      refine ⟨by simp, .of_ordinary (.asked place_release .nil) fun pid => by simp, ?_⟩
      exact .inr ⟨_, _, rfl, .of_refused tells refused⟩

/-! ## The protocol -/

/-- What a trace says, and how it ends. -/
structure Protocol (t : Target) (words : List Event) (result : Except Stop Unit) : Prop where
  /-- The release comes first, and nothing more where the server is too old; a trace of such a
  server fails because of its release. -/
  gate : Gated t words result
  /-- The helper is called right behind a poll that found a query, with the count of the processes
  in between where there is a group of them. -/
  helper : Throughout (fun before statement _ _ => statement.sql = t.helperQuery.sql →
    statement = t.helperQuery ∧ ∃ earlier found q counts,
      before = earlier ++ .asked t.activityQuery found :: .printed q.newText :: counts ∧
        Finds found q ∧ Counts t counts) words
  /-- A helper that returned over a connection that is still open is followed by its durations. -/
  measured : Throughout (fun _ statement reply after => statement.sql = t.helperQuery.sql →
    reply.accepts = true → reply.closes = false →
      ∃ q answer rest, after = .asked (durationQuery q) answer :: rest) words
  /-- A helper that returned while the connection was lost is the end. -/
  lost : Throughout (fun _ statement reply after => statement.sql = t.helperQuery.sql →
    reply.accepts = true → reply.closes = true →
      Teardown after ∧ ∃ failure, result = .error (.failed failure)) words
  /-- Durations are asked for only there, and they are those of the query that the poll found. -/
  duration : ∀ any : Query, Throughout (fun before statement _ _ =>
    statement.sql = (durationQuery any).sql → ∃ earlier found q counts helped,
      statement = durationQuery q ∧ Finds found q ∧ Counts t counts ∧
        before = earlier ++ .asked t.activityQuery found :: .printed q.newText ::
          (counts ++ [.asked t.helperQuery helped]) ∧
        helped.accepts = true ∧ helped.closes = false) words
  /-- A refusal that means no more than that the target is not active leads to the next poll at
  once, or the trace ends there as it can end between two turns. -/
  unfit : Throughout (fun _ statement reply after => statement.sql = t.helperQuery.sql →
    Unfit reply → Onward t after result) words
  /-- After any other refusal the helper is dropped at most, and the trace fails with the refusal. A
  refusal to tell the release is the end as well; while the helper is dropped, the trace is over. -/
  refused : Throughout (fun _ statement reply after => ∀ error, reply.outcome = .refused error →
    ¬ (statement.sql = t.helperQuery.sql ∧ Unfit reply) →
    statement.sql ∉ releaseQuery.sql :: dropping →
      Teardown after ∧ result = .error (.failed (reply.meaning statement error))) words
  /-- A trace comes to no normal end. -/
  endless : result ≠ .ok ()
  /-- The target is gone exactly when a poll has missed it. -/
  gone : (∃ pid, result = .error (.failed (.targetGone pid))) ↔
    ∃ before statement reply after, words = before ++ .asked statement reply :: after ∧
      statement.sql = t.activityQuery.sql ∧ Misses reply
  /-- It is the target of this trace that is gone. -/
  own : ∀ pid, result = .error (.failed (.targetGone pid)) → pid = some t.pid

/-- What is asked before and after the turns is nothing that is asked in them. -/
theorem outer_apart (t : Target) (q : Query) {sql : String}
    (outer : sql ∈ releaseQuery.sql :: (installing t.workers ++ dropping)) :
    sql ∉ [t.activityQuery.sql, t.helperQuery.sql, (durationQuery q).sql] := by
  -- The texts do not depend on the values, so those of one target do for all.
  have one : ∀ workers, ∀ sql ∈ releaseQuery.sql :: (installing workers ++ dropping),
      sql ∉ [(Target.mk 0 .null false).activityQuery.sql, (Target.mk 0 .null false).helperQuery.sql,
        (durationQuery ⟨.null, .null, .null⟩).sql] := by
    decide +kernel
  exact one _ _ outer

namespace Place

variable {before after : List Event} {statement : Statement} {reply : Reply}

theorem at_helper (h : Place t result before statement reply after)
    (same : statement.sql = t.helperQuery.sql) :
    statement = t.helperQuery ∧ ∃ earlier found q counts,
      before = earlier ++ .asked t.activityQuery found :: .printed q.newText :: counts ∧
        Finds found q ∧ Counts t counts ∧ Called t q reply after result := by
  have apart := texts_nodup t ⟨.null, .null, .null⟩
  cases h with
  | around outer =>
    rw [same] at outer
    exact absurd (by simp) (outer_apart t ⟨.null, .null, .null⟩ outer)
  | poll | count => simp [same] at apart
  | helper earlier finds counted called =>
    exact ⟨rfl, earlier, _, _, _, rfl, finds, counted, called⟩
  | @duration _ _ _ _ _ _ q =>
    have apart := texts_nodup t q
    simp [same] at apart

theorem at_duration (h : Place t result before statement reply after) {any : Query}
    (same : statement.sql = (durationQuery any).sql) :
    ∃ earlier found q counts helped, statement = durationQuery q ∧ Finds found q ∧ Counts t counts ∧
      before = earlier ++ .asked t.activityQuery found :: .printed q.newText ::
        (counts ++ [.asked t.helperQuery helped]) ∧
      helped.accepts = true ∧ helped.closes = false := by
  have apart := texts_nodup t any
  cases h with
  | around outer =>
    rw [same] at outer
    exact absurd (by simp) (outer_apart t any outer)
  | poll | count | helper => simp [same] at apart
  | duration earlier finds counted accepts opens =>
    exact ⟨earlier, _, _, _, _, rfl, finds, counted, rfl, accepts, opens⟩

theorem at_poll (h : Place t result before statement reply after)
    (same : statement.sql = t.activityQuery.sql) (misses : Misses reply) :
    result = .error (.failed (.targetGone (some t.pid))) := by
  have apart := texts_nodup t ⟨.null, .null, .null⟩
  cases h with
  | around outer =>
    rw [same] at outer
    exact absurd (by simp) (outer_apart t ⟨.null, .null, .null⟩ outer)
  | poll _ gone => exact gone misses
  | count | helper => simp [same] at apart
  | @duration _ _ _ _ _ _ q =>
    have apart := texts_nodup t q
    simp [same] at apart

/-- A refusal is the end, wherever it does not say that the target is not active. -/
theorem final (h : Place t result before statement reply after) {error : DriverError}
    (refuses : reply.outcome = .refused error)
    (fit : ¬ (statement.sql = t.helperQuery.sql ∧ Unfit reply))
    (inner : statement.sql ∉ releaseQuery.sql :: dropping) :
    Teardown after ∧ result = .error (.failed (reply.meaning statement error)) := by
  cases h with
  | around _ final => exact final inner error refuses
  | poll final | count final => exact final error refuses
  | duration _ _ _ _ _ final => exact final error refuses
  | helper _ _ _ called =>
    cases called with
    | measured accepts | lost accepts =>
      exact absurd (accepts.symm.trans (Reply.accepts_refused refuses)) (by simp)
    | unfit unfit => exact absurd ⟨rfl, unfit⟩ fit
    | refused _ refused finished =>
      cases refuses.symm.trans refused
      exact ⟨finished, rfl⟩

end Place

/-- A reply cannot both bring a result and mean that the target is not active. -/
theorem Unfit.refuses {reply : Reply} (h : Unfit reply) : reply.accepts = false := by
  obtain ⟨-, error, refuses, -⟩ := h
  exact Reply.accepts_refused refuses

/-- The protocol is what the places of the statements say. -/
theorem Conduct.protocol (h : Conduct t words result) (gate : Gated t words result) :
    Protocol t words result := by
  refine ⟨gate, ?_, ?_, ?_, fun any => ?_, ?_, ?_, h.endless, ⟨?_, ?_⟩, ?_⟩
  · refine h.places.mono fun before statement reply after place same => ?_
    obtain ⟨own, earlier, found, q, counts, behind, finds, counted, -⟩ := place.at_helper same
    exact ⟨own, earlier, found, q, counts, behind, finds, counted⟩
  · refine h.places.mono fun before statement reply after place same accepts opens => ?_
    obtain ⟨-, earlier, found, q, counts, -, -, -, called⟩ := place.at_helper same
    cases called with
    | measured => exact ⟨_, _, _, rfl⟩
    | lost _ closes => exact absurd (opens.symm.trans closes) (by simp)
    | unfit unfit => exact absurd (accepts.symm.trans unfit.refuses) (by simp)
    | refused _ refuses =>
      exact absurd (accepts.symm.trans (Reply.accepts_refused refuses)) (by simp)
  · refine h.places.mono fun before statement reply after place same accepts closes => ?_
    obtain ⟨-, earlier, found, q, counts, -, -, -, called⟩ := place.at_helper same
    cases called with
    | measured _ opens => exact absurd (opens.symm.trans closes) (by simp)
    | lost _ _ finished => exact ⟨finished, _, rfl⟩
    | unfit unfit => exact absurd (accepts.symm.trans unfit.refuses) (by simp)
    | refused _ refuses =>
      exact absurd (accepts.symm.trans (Reply.accepts_refused refuses)) (by simp)
  · exact h.places.mono fun before statement reply after place same => place.at_duration same
  · refine h.places.mono fun before statement reply after place same unfit => ?_
    obtain ⟨-, earlier, found, q, counts, -, -, -, called⟩ := place.at_helper same
    cases called with
    | measured accepts | lost accepts =>
      exact absurd (accepts.symm.trans unfit.refuses) (by simp)
    | unfit _ next => exact next
    | refused fit => exact absurd unfit fit
  · exact h.places.mono fun before statement reply after place error refuses fit inner =>
      place.final refuses fit inner
  · rintro ⟨pid, same⟩
    obtain ⟨-, before, reply, after, split, misses⟩ := h.gone pid same
    exact ⟨before, t.activityQuery, reply, after, split, rfl, misses⟩
  · rintro ⟨before, statement, reply, after, split, same, misses⟩
    exact ⟨_, (h.places before statement reply after split).at_poll same misses⟩
  · exact fun pid same => (h.gone pid same).1

/-- Whatever the server answers and whenever signals arrive, a trace keeps the protocol; and where
it ends because the user wants the end, the flag is set. -/
theorem start_protocol (w : Surroundings) (s : Session) (t : Target) :
    ∃ words, ((start t).perform w s).2.said = s.said ++ words ∧
      Protocol t words ((start t).perform w s).1 ∧
      (Run.Flagged ((start t).perform w s).1 →
        ((start t).perform w s).2.flags.shutdown = true) := by
  obtain ⟨words, spoken, ⟨conduct, gated⟩, aware⟩ := start_speaks t _ w s rfl
  exact ⟨words, spoken.said, conduct.protocol gated, aware⟩

/-- The answer of a helper whose target is not active any more, while SIGINT arrives. -/
def lateRefusal : Reply where
  signals := [.interrupt]
  outcome := .refused ⟨.other, "not active", some "not active", some refusal⟩

/-- A server on which the target is active once, and where SIGINT arrives while the helper finds it
not active. -/
def lateSignal : Surroundings where
  reply past statement :=
    if statement.sql = releaseQuery.sql then
      { outcome := .result ⟨[], [[.text "PostgreSQL 16.4"]]⟩ }
    else if statement.sql = (Target.mk 4242 (.float 1.0) false).activityQuery.sql then
      { outcome := .result ⟨[],
          if past.any fun event => event.statement?.any (·.sql == statement.sql) then []
          else [[.text "active", .text "SELECT 1", .null, .null]]⟩ }
    else if statement.sql = (Target.mk 4242 (.float 1.0) false).helperQuery.sql then lateRefusal
    else { outcome := .done }
  patience := 3

/-- A helper that is refused because the target is not active leads to no poll where SIGINT has
arrived: the trace looks at the flag first. Behind the release and what installs the helper there is
one poll. -/
theorem interrupted_before_poll :
    let t : Target := ⟨4242, .float 1.0, false⟩
    let ended := (start t).perform lateSignal {}
    (∀ past, lateSignal.reply past t.helperQuery = lateRefusal) ∧ Unfit lateRefusal ∧
      (ended.2.executed.drop 4).map Statement.sql =
        [t.activityQuery.sql, t.helperQuery.sql, dropSchema, dropTable] ∧
      ended.1 = .error (.failed (.interrupted .signal)) := by
  refine ⟨fun past => ?_, ⟨rfl, _, rfl, by decide, rfl⟩, ?_, ?_⟩
  · have other : (Target.mk 4242 (.float 1.0) false).helperQuery.sql ≠ releaseQuery.sql := by decide
    have poll : (Target.mk 4242 (.float 1.0) false).helperQuery.sql ≠
        (Target.mk 4242 (.float 1.0) false).activityQuery.sql := by decide
    simp only [lateSignal, if_neg other, if_neg poll, if_true]
  · decide +kernel
  · decide +kernel

end PgVitals.Trace
