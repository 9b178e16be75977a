import PgVitals.Proofs.Command.Leaving
/-!
# How a program ends

Whatever the options of a command are, whatever the server answers and however the work of the
utility ends: when the program is left, its connection is closed, nothing was asked after that, and
the handlers of signals are those of before. How it was left decides the exit status and what the
user is told.

* `Departure` lists the ways to leave a command: it returns, it stops before there is a connection,
  there is no connection, or its work stops. `Departure.result` and `Departure.complaints` are the
  outcome and the words that belong to each.
* `Departs` says what happened meanwhile: work first, and behind it only what leaves the command. No
  statement is among that, and a connection that is still open is closed.
* `Invocation.exits` says that every command is left so. It is assembled from
  `Invocation.exits_unconnected` and `Invocation.exits_worked`, and these from the equations in
  `Proofs/Command/Leaving`.
* `Departure.statuses` and `Departure.tells` are the exit statuses and the `Error:` lines, as two
  tables over the ways to leave. They are proved of every way that `Departure.isReported` does not
  leave out.

Left out are failures of three kinds: a fault of the program, an error of the driver that was not
classified, and an exit that somebody else asked for. They leave a command as they are, without a
line for the user. That no refused statement leaves an error of the driver unclassified is proved in
`Proofs/Refusals`. A run that is cut short ends the program without an exit status, and is among the
outcomes.
-/

namespace PgVitals

variable {w : Surroundings} {s s' : Session} {i : Invocation}

/-! ## Ways to leave a command -/

/-- How a command is left: it returns, it stops before there is a connection, there is no
connection, or its work stops. -/
inductive Departure where
  | returned
  | unprepared (stop : Stop)
  | unconnected (cause : ConnectionCause) (target : ConnectionSettings)
  | stopped (u : Utility) (stop : Stop)

namespace Departure

/-- How a command is left whose work ended in some way. -/
def ofWork (u : Utility) : Except Stop Unit → Departure
  | .ok () => .returned
  | .error stop => .stopped u stop

/-- The failure with which a command was left, if it was. -/
def failure? : Departure → Option Failure
  | unprepared (.failed failure) => some failure
  | stopped _ (.failed failure) => some failure
  | _ => none

/-- Whether a command is left with the status of a failed snapshot: where the work of a snapshot is
ended by a refused statement or by a file. -/
def endsSnapshot : Departure → Bool
  | stopped u (.failed failure) => u = .snapshot && failure.endsSnapshot
  | _ => false

/-- Whether a command is left for a reason that its users are told: it does not stop because of a
fault, a raw error of the driver, or somebody else's wish to exit. -/
def isReported (d : Departure) : Bool := d.failure?.all Failure.isReported

/-- What a program ends with whose command is left. -/
def result : Departure → Except Stop Unit
  | returned => .ok ()
  | unconnected _ _ => .error (.failed (.exit 1))
  | unprepared .unfinished => .error .unfinished
  | unprepared (.failed failure) => failure.result
  | stopped _ .unfinished => .error .unfinished
  | stopped u (.failed failure) =>
    if u = .snapshot ∧ failure.endsSnapshot = true then .error (.failed (.exit snapshotFailure))
    else failure.result

/-- What the user is told when a command is left. -/
def complaints : Departure → List String
  | unconnected cause target => cause.lines target
  | d => (d.failure?.map Failure.complaints).getD []

end Departure

/-- The session in which the work of a command starts. -/
def Job.start {u : Utility} (j : Job u) (w : Surroundings) (s : Session) : Session :=
  j.access.opened w (handled w (.forRun j.access.watchResize) s)

/-- The session in which a command starts to prepare. -/
def Invocation.started (i : Invocation) (w : Surroundings) (s : Session) : Session :=
  s.after w (.logShown i.task.utility.program i.general.logLevel)

/-- From the session `s` to the session `s'` a command is left in some way. Where it had a
connection, its work was done, or stopped, before anything of what leaves the command: no statement
follows, and a connection that is still open then is closed. -/
inductive Departs (w : Surroundings) (i : Invocation) (s s' : Session) : Departure → Prop
  | unprepared {stop : Stop} {s₁ : Session}
      (prepares : i.prepare.perform w (i.started w s) = (.error stop, s₁)) :
      Departs w i s s' (.unprepared stop)
  | returned {s₁ : Session} (prepares : i.prepare.perform w (i.started w s) = (.ok none, s₁)) :
      Departs w i s s' .returned
  | unconnected {job : Job i.task.utility} {s₁ : Session} {cause : ConnectionCause}
      (prepares : i.prepare.perform w (i.started w s) = (.ok (some job), s₁))
      (denied : job.access.denied? w = some cause) :
      Departs w i s s' (.unconnected cause job.access.target)
  | worked {job : Job i.task.utility} {s₁ s₂ : Session} {result : Except Stop Unit}
      {tail : List Event} (prepares : i.prepare.perform w (i.started w s) = (.ok (some job), s₁))
      (accepted : job.access.denied? w = none)
      (works : job.body.perform w (job.start w s₁) = (result, s₂))
      (past : s'.past = tail ++ s₂.past)
      (unasked : ∀ statement reply, Event.asked statement reply ∉ tail)
      (closes : s₂.link = .up → Event.hungUp ∈ tail) :
      Departs w i s s' (.ofWork i.task.utility result)

/-- How a program ends whose command is left in some way: the events `new` happened, newest
first. -/
structure Exits (w : Surroundings) (i : Invocation) (s : Session) (d : Departure)
    (new : List Event) (result : Except Stop Unit) (s' : Session) : Prop where
  departs : Departs w i s s' d
  past : s'.past = new ++ s.past
  result : result = d.result
  complaints : complaintsIn new = asLines d.complaints
  /-- A connection that was asked for and not refused is closed. -/
  closed : ∀ settings, Event.dialled settings ∈ new → w.refusal = none → s'.link ≠ .up
  /-- Nothing is asked after the connection was closed: what a teardown asks comes before that. -/
  last : ∀ later earlier, new = later ++ .hungUp :: earlier →
    ∀ statement reply, Event.asked statement reply ∉ later
  handlers : s'.handlers = s.handlers

/-- What comes early and what a command is left with make up the end of a program. -/
theorem Exits.of_parts {d : Departure} {earlier later : List Event} {lines : List String}
    {result : Except Stop Unit} {s₂ : Session} (departs : Departs w i s s' d)
    (early : Happens Event.isEarly s earlier s₂) (parts : Parts s₂ later lines s')
    (ends : result = d.result) (told : lines = asLines d.complaints)
    (closed : ∀ settings, Event.dialled settings ∈ earlier → w.refusal = none → s'.link ≠ .up)
    (handlers : s'.handlers = s.handlers) : Exits w i s d (later ++ earlier) result s' where
  departs := departs
  past := by rw [parts.past, early.past, List.append_assoc]
  result := ends
  complaints := by
    rw [complaintsIn_append, early.complaintsIn_early, parts.lines, told]
    rfl
  closed settings member refusal := by
    rcases List.mem_append.mp member with member | member
    · cases parts.kind _ member
    · exact closed settings member refusal
  last past between split statement reply member := by
    -- The connection is closed among what leaves the command, so what follows is among it as well.
    rcases List.append_eq_append_iff.mp split with ⟨rest, rfl, same⟩ | ⟨rest, rfl, same⟩
    · cases early.kind .hungUp (by rw [same]; simp)
    · cases parts.kind _ (List.mem_append_left _ member)
  handlers := handlers

/-- A command that has no job, or stops before it has one, asks for no connection. -/
theorem Invocation.early (i : Invocation) {result : Except Stop (Option (Job i.task.utility))}
    {s₁ : Session} (prepares : i.prepare.perform w (i.started w s) = (result, s₁)) :
    ∃ earlier, Happens Event.isOutset s earlier s₁ ∧ s₁.handlers = s.handlers := by
  obtain ⟨signals, shown⟩ := Happens.after (w := w) (s := s) Event.isOutset
    (.logShown i.task.utility.program i.general.logLevel) rfl fun _ => rfl
  obtain ⟨new, adds, work⟩ := i.works_prepare w (i.started w s)
  rw [prepares] at adds
  have outset : Happens Event.isOutset (i.started w s) new s₁ :=
    ⟨adds.past, fun event member => by simp [Event.isOutset, work event member]⟩
  exact ⟨_, shown.trans outset, adds.handlers.trans (Session.handlers_after _)⟩

/-- What becomes of the program where its command ended in some way: a failure ends it. -/
def settled (w : Surroundings) : Except Stop Unit × Session → Except Stop Unit × Session
  | (.error (.failed failure), s') => (failure.result, told w s' failure.complaints)
  | ended => ended

/-- A program prepares and does its job, and a failure ends it. -/
theorem Invocation.perform_perform (i : Invocation) :
    i.perform.perform w s =
      settled w ((i.prepare >>= Job.perform).perform w (i.started w s)) := by
  have shown : (Run.note (.logShown i.task.utility.program i.general.logLevel)).perform w s =
      (.ok (), i.started w s) := rfl
  rw [i.perform_eq, Run.perform_bind_ok shown, Run.perform_rescue]
  rcases (i.prepare >>= Job.perform).perform w (i.started w s) with ⟨(failure | -) | _, s'⟩
  · exact perform_endWith failure
  · rfl
  · rfl

section

variable {job : Job i.task.utility} {s₁ : Session}
  (prepares : i.prepare.perform w (i.started w s) = (.ok (some job), s₁))

include prepares

/-- Without a connection a command ends with what the user is told about that. -/
theorem Invocation.exits_unconnected {cause : ConnectionCause}
    (denied : job.access.denied? w = some cause) :
    ∃ new, Exits w i s (.unconnected cause job.access.target) new (.error (.failed (.exit 1)))
      (handled w s₁.handlers
        (told w (job.access.closed w (handled w (.forRun job.access.watchResize) s₁))
          (cause.lines job.access.target))) := by
  obtain ⟨_, outset, handlers⟩ := i.early prepares
  obtain ⟨_, set⟩ := handled_early (w := w) (s := s₁) (.forRun job.access.watchResize)
  obtain ⟨_, _, _, early, closing⟩ :=
    job.access.closed_parts (w := w) (s := handled w (.forRun job.access.watchResize) s₁)
  obtain ⟨_, telling⟩ := told_parts (w := w)
    (s := job.access.closed w (handled w (.forRun job.access.watchResize) s₁))
    (cause.lines job.access.target)
  obtain ⟨_, back⟩ := handled_parts (w := w) (s := told w
    (job.access.closed w (handled w (.forRun job.access.watchResize) s₁))
    (cause.lines job.access.target)) s₁.handlers
  have start := (outset.mono fun _ => Event.isEarly_of_isOutset).trans (set.trans early)
  refine ⟨_, .of_parts (.unconnected prepares denied) start (closing.trans (telling.trans back)) rfl
    (by simp [Departure.complaints]) ?_ ?_⟩
  · intro _ _ refusal
    rw [link_handled, link_told]
    exact job.access.link_closed refusal
  · exact (handlers_handled _).trans handlers

/-- With a connection the work is done or stops, and then the command is left. -/
theorem Invocation.exits_worked (accepted : job.access.denied? w = none)
    {result : Except Stop Unit} {s₂ : Session}
    (works : job.body.perform w (job.start w s₁) = (result, s₂)) {tail : List Event}
    {lines : List String} (parts : Parts s₂ tail lines s')
    (closes : s₂.link = .up → Event.hungUp ∈ tail) (down : s'.link ≠ .up)
    (handlers : s'.handlers = s₁.handlers)
    (told : lines = asLines (Departure.ofWork i.task.utility result).complaints) :
    ∃ new, Exits w i s (.ofWork i.task.utility result) new
      (Departure.ofWork i.task.utility result).result s' := by
  obtain ⟨_, outset, before⟩ := i.early prepares
  obtain ⟨_, set⟩ := handled_early (w := w) (s := s₁) (.forRun job.access.watchResize)
  obtain ⟨_, opened⟩ :=
    job.access.opened_early (w := w) (s := handled w (.forRun job.access.watchResize) s₁)
  obtain ⟨_, work⟩ := Happens.of_works (w := w) (s := job.start w s₁) job.works
  rw [works] at work
  have early : ∀ {new : List Event} {s s' : Session}, Happens Event.isOutset s new s' →
      Happens Event.isEarly s new s' := fun outset => outset.mono fun _ => Event.isEarly_of_isOutset
  refine ⟨_, .of_parts (.worked prepares accepted works parts.past ?_ closes)
    ((early outset).trans (set.trans (opened.trans (early work)))) parts rfl told
    (fun _ _ _ => down) (handlers.trans before)⟩
  intro statement reply member
  cases parts.kind _ member

/-- With a job a command is left in one of these two ways. -/
theorem Invocation.exits_job
    (left : (settled w ((job.access.use job.work).perform w s₁)).1 ≠ .error .unfinished) :
    ∃ d new, Exits w i s d new (settled w ((job.access.use job.work).perform w s₁)).1
      (settled w ((job.access.use job.work).perform w s₁)).2 := by
  rw [job.access.perform_use] at left ⊢
  cases accepted : job.access.denied? w with
  | some cause => exact ⟨_, i.exits_unconnected prepares accepted⟩
  | none =>
    rw [accepted] at left
    simp only [job.perform_work] at left ⊢
    rcases works : job.body.perform w (job.start w s₁) with ⟨(failure | -) | ⟨⟩, s₂⟩ <;>
      rw [Job.start] at works <;> rw [works] at left ⊢ <;> rw [← Job.start] at works
    · by_cases itself : i.task.utility = .snapshot ∧ failure.endsSnapshot = true
      · -- The snapshot tells the user itself, before the connection is closed.
        simp only [if_pos itself]
        obtain ⟨_, telling⟩ := told_parts (w := w) (s := s₂) failure.lines
        obtain ⟨_, leaving, closes⟩ :=
          left_parts (w := w) (s := told w s₂ failure.lines) s₁.handlers
        rw [link_told] at closes
        obtain ⟨new, exits⟩ := i.exits_worked prepares accepted works (telling.trans leaving)
          (fun up => List.mem_append_left _ (closes up)) link_left (handlers_handled _)
          (by simp [Departure.complaints, Departure.ofWork, Departure.failure?,
            Failure.complaints_of_endsSnapshot itself.2])
        rw [Departure.ofWork, Departure.result, if_pos itself] at exits
        exact ⟨_, new, exits⟩
      · simp only [if_neg itself]
        obtain ⟨_, leaving, closes⟩ := left_parts (w := w) (s := s₂) s₁.handlers
        obtain ⟨_, telling⟩ := told_parts (w := w) (s := handled w s₁.handlers (hungUp w s₂))
          failure.complaints
        obtain ⟨new, exits⟩ := i.exits_worked prepares accepted works (leaving.trans telling)
          (fun up => List.mem_append_right _ (closes up)) (by rw [link_told]; exact link_left)
          ((handlers_told _).trans (handlers_handled _)) rfl
        rw [Departure.ofWork, Departure.result, if_neg itself] at exits
        exact ⟨_, new, exits⟩
    · exact absurd rfl left
    · obtain ⟨_, leaving, closes⟩ := left_parts (w := w) (s := s₂) s₁.handlers
      obtain ⟨new, exits⟩ := i.exits_worked prepares accepted works leaving closes link_left
        (handlers_handled _) rfl
      exact ⟨_, new, exits⟩

end

/-- Whatever a command line says, and whatever comes: when the program is left, it has ended as its
command was left. -/
theorem Invocation.exits (i : Invocation) (w : Surroundings) (s : Session)
    (left : (i.perform.perform w s).1 ≠ .error .unfinished) :
    ∃ d new, Exits w i s d new (i.perform.perform w s).1 (i.perform.perform w s).2 := by
  rw [i.perform_perform] at left ⊢
  rw [Run.perform_bind] at left ⊢
  rcases prepares : i.prepare.perform w (i.started w s) with ⟨(failure | -) | (_ | job), s₁⟩
  · -- A failure before there is a connection.
    obtain ⟨earlier, outset, handlers⟩ := i.early prepares
    obtain ⟨later, parts⟩ := told_parts (w := w) (s := s₁) failure.complaints
    refine ⟨.unprepared (.failed failure), _, .of_parts (.unprepared prepares)
      (outset.mono fun _ => Event.isEarly_of_isOutset) parts rfl rfl ?_ ?_⟩
    · intro settings member
      cases outset.kind _ member
    · exact (handlers_told _).trans handlers
  · rw [prepares] at left
    exact absurd rfl left
  · -- Nothing to do over a connection.
    obtain ⟨earlier, outset, handlers⟩ := i.early prepares
    refine ⟨.returned, _, .of_parts (.returned prepares)
      (outset.mono fun _ => Event.isEarly_of_isOutset) .rest rfl rfl ?_ handlers⟩
    intro settings member
    cases outset.kind _ member
  · rw [prepares] at left
    exact i.exits_job prepares left

/-! ## Exit statuses and `Error:` lines -/

/-- Whether a text on standard error is an `Error:` line. -/
def isErrorLine (text : String) : Bool := "Error:".toList.isPrefixOf text.toList

/-- Nothing but the first of the lines about a failure is an `Error:` line. -/
theorem Failure.errorLines (failure : Failure) :
    (asLines failure.lines).countP isErrorLine = 1 := by
  cases failure <;> simp [lines, asLines, isErrorLine, List.isPrefixOf]

/-- Nothing but the first of the lines about a missing connection is an `Error:` line. -/
theorem ConnectionCause.errorLines (cause : ConnectionCause) (target : ConnectionSettings) :
    (asLines (cause.lines target)).countP isErrorLine = 1 := by
  cases hint : connectionHint cause.message target.host target.port <;>
    simp [lines, hint, asLines, isErrorLine, List.isPrefixOf]

/-- A failure that is reported ends the program with the status two, where the traced process is
gone, or one. -/
theorem Failure.result_of_isReported {failure : Failure} (reported : failure.isReported = true) :
    (∃ pid, failure = .targetGone pid) ∧ failure.result = .error (.failed (.exit 2)) ∨
      (∀ pid, failure ≠ .targetGone pid) ∧ failure.result = .error (.failed (.exit 1)) := by
  cases failure with
  | targetGone pid => exact .inl ⟨⟨pid, rfl⟩, rfl⟩
  | fault _ => cases reported
  | driver _ => cases reported
  | exit _ => cases reported
  | _ => exact .inr ⟨fun _ same => (by cases same), rfl⟩

namespace Departure

/-- The exit status tells how a command was left. -/
structure Statuses (d : Departure) (result : Except Stop Unit) : Prop where
  zero : result = .ok () ↔ d = .returned
  two : result = .error (.failed (.exit 2)) ↔ ∃ pid, d.failure? = some (.targetGone pid)
  minusOne : result = .error (.failed (.exit (-1))) ↔ d.endsSnapshot = true
  one : result = .error (.failed (.exit 1)) ↔
    (∃ cause target, d = .unconnected cause target) ∨
      ∃ failure, d.failure? = some failure ∧ (∀ pid, failure ≠ .targetGone pid) ∧
        d.endsSnapshot = false

/-- One `Error:` line tells the user about every failure, but for two. -/
structure Tells (d : Departure) (lines : List String) : Prop where
  returned : d = .returned → lines = []
  silent : ∀ failure, d.failure? = some failure → failure.isSilent = true → lines = []
  once : d ≠ .returned → (∀ failure, d.failure? = some failure → failure.isSilent = false) →
    lines.countP isErrorLine = 1
  query : ∀ message sql code, d.failure? = some (.query message sql code) →
    lines = ["Error: " ++ message ++ "\n", "query was: " ++ sql ++ "\n"]

/-- The exit statuses of a failure that nothing but the end of the program sees to. -/
theorem Statuses.of_failure {d : Departure} {failure : Failure}
    (failed : d.failure? = some failure) (reported : failure.isReported = true)
    (plain : d.endsSnapshot = false) : d.Statuses failure.result := by
  have notReturned : d ≠ .returned := by
    rintro rfl
    cases failed
  have connected : ¬ ∃ cause target, d = .unconnected cause target := by
    rintro ⟨cause, target, rfl⟩
    cases failed
  obtain ⟨⟨pid, rfl⟩, ends⟩ | ⟨present, ends⟩ := Failure.result_of_isReported reported
  · rw [ends]
    constructor <;> simp [failed, plain, notReturned, connected]
  · rw [ends]
    constructor <;> simp [failed, plain, notReturned, connected]
    all_goals exact present

theorem statuses (d : Departure) (reported : d.isReported = true) : d.Statuses d.result := by
  cases d with
  | returned => constructor <;> simp [result, failure?, endsSnapshot]
  | unconnected cause target => constructor <;> simp [result, failure?, endsSnapshot]
  | unprepared stop =>
    cases stop with
    | unfinished => constructor <;> simp [result, failure?, endsSnapshot]
    | failed failure => exact .of_failure rfl reported rfl
  | stopped u stop =>
    cases stop with
    | unfinished => constructor <;> simp [result, failure?, endsSnapshot]
    | failed failure =>
      by_cases itself : u = .snapshot ∧ failure.endsSnapshot = true
      · -- A snapshot does not end itself where a traced process is gone.
        have present : ∀ pid, failure ≠ .targetGone pid := by
          rintro pid rfl
          cases itself.2
        rw [result, if_pos itself]
        constructor <;> simp [failure?, endsSnapshot, itself, present, snapshotFailure]
      · rw [result, if_neg itself]
        exact .of_failure rfl reported (by simpa [endsSnapshot] using itself)

/-- What is told about a failure that is reported. -/
theorem Tells.of_failure {d : Departure} {failure : Failure} (failed : d.failure? = some failure)
    (reported : failure.isReported = true) : d.Tells (asLines failure.complaints) := by
  cases silence : failure.isSilent with
  | true =>
    have none : asLines failure.complaints = [] := by
      simp [Failure.complaints, silence, asLines]
    refine ⟨fun _ => none, fun _ _ _ => none, fun _ loud => ?_, fun message sql code same => ?_⟩
    · exact absurd (loud failure failed) (by simp [silence])
    · obtain rfl : failure = .query message sql code := Option.some.inj (failed.symm.trans same)
      cases silence
  | false =>
    have all : failure.complaints = failure.lines := by
      simp [Failure.complaints, silence, reported]
    refine ⟨?_, fun other same silent => ?_, fun _ _ => ?_, fun message sql code same => ?_⟩
    · rintro rfl
      cases failed
    · obtain rfl : failure = other := Option.some.inj (failed.symm.trans same)
      exact absurd silent (by simp [silence])
    · rw [all]
      exact failure.errorLines
    · obtain rfl : failure = .query message sql code := Option.some.inj (failed.symm.trans same)
      rfl

theorem tells (d : Departure) (reported : d.isReported = true)
    (left : d.result ≠ .error .unfinished) : d.Tells (asLines d.complaints) := by
  cases d with
  | returned =>
    exact ⟨fun _ => rfl, fun _ _ _ => rfl, fun other => absurd rfl other, by simp [failure?]⟩
  | unconnected cause target =>
    refine ⟨by simp, by simp [failure?], fun _ _ => cause.errorLines target, by simp [failure?]⟩
  | unprepared stop =>
    cases stop with
    | unfinished => exact absurd rfl left
    | failed failure => exact .of_failure rfl reported
  | stopped u stop =>
    cases stop with
    | unfinished => exact absurd rfl left
    | failed failure => exact .of_failure rfl reported

end Departure

/-- A program whose command line is accepted is what its command line says. -/
theorem perform_runProgram {name : String} {texts : List String}
    (accepted : readProgram (Terminal.columns w.environment) name texts = .ok (some i)) :
    (runProgram name texts).perform w s = i.perform.perform w s := by
  rw [runProgram, Run.perform_bind, Run.perform_read]
  simp only [accepted]

/-- Whatever the options of a program are, whatever the server does and however the work of the
utility ends: when the program is left, it has left its command in order, with the connection closed
after everything that is asked, teardowns included, and with the handlers of before. Unless it stops
because of a fault, a raw error of the driver or somebody else's wish to exit, its exit status and
what the user is told are those of the way in which the command was left. -/
theorem runProgram_exits {name : String} {texts : List String} {i : Invocation} (w : Surroundings)
    (s : Session)
    (accepted : readProgram (Terminal.columns w.environment) name texts = .ok (some i))
    (left : ((runProgram name texts).perform w s).1 ≠ .error .unfinished) :
    ∃ d new, Exits w i s d new ((runProgram name texts).perform w s).1
        ((runProgram name texts).perform w s).2 ∧
      (d.isReported = true → d.Statuses ((runProgram name texts).perform w s).1 ∧
        d.Tells (complaintsIn new)) := by
  rw [perform_runProgram accepted] at left ⊢
  obtain ⟨d, new, exits⟩ := i.exits w s left
  refine ⟨d, new, exits, fun reported => ?_⟩
  rw [exits.result] at left
  rw [exits.result, exits.complaints]
  exact ⟨d.statuses reported, d.tells reported left⟩

/-- A server with nothing to answer. -/
def silentServer : Surroundings where
  reply _ _ := { outcome := .result ⟨[], []⟩ }
  patience := 3

/-- A report from a server that does not say its release: the user is told, and the exit status is
one. -/
theorem silentServer_exits :
    let ended := (runProgram "pgreport" []).perform silentServer {}
    ended.1 = .error (.failed (.exit 1)) ∧
      complaintsIn ended.2.past = ["Error: SELECT version() returned no row\n"] ∧
      ∃ i, readProgram (Terminal.columns silentServer.environment) "pgreport" [] = .ok (some i) ∧
        ∃ d new, Exits silentServer i {} d new ended.1 ended.2 ∧
          (d.isReported = true → d.Statuses ended.1 ∧ d.Tells (complaintsIn new)) := by
  have ends : ((runProgram "pgreport" []).perform silentServer {}).1 =
      .error (.failed (.exit 1)) := by decide +kernel
  obtain ⟨i, accepted⟩ : ∃ i,
      readProgram (Terminal.columns silentServer.environment) "pgreport" [] = .ok (some i) := by
    have reads : (readProgram (Terminal.columns silentServer.environment) "pgreport" []
        ).toOption.join.isSome = true := by decide +kernel
    rcases h : readProgram (Terminal.columns silentServer.environment) "pgreport" [] with
      ending | (_ | i)
    · rw [h] at reads
      cases reads
    · rw [h] at reads
      cases reads
    · exact ⟨i, rfl⟩
  exact ⟨ends, by decide +kernel, i, accepted,
    runProgram_exits silentServer {} accepted (by rw [ends]; decide)⟩

end PgVitals
