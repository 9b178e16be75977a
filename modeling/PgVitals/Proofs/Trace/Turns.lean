import PgVitals.Proofs.Session.Saying
import PgVitals.Proofs.Trace.Watching
/-!
# The turns of a trace

What a trace says is one turn after the other. A turn polls its target; where the target is active
it counts the processes, if they are to be counted, and starts the helper; where the helper returns
over a connection that is still open, the durations are asked for, and then the findings are
printed. The grammars below say this function by function, with every answer the server can give and
every way a turn can end.

* `Polled` is the grammar of a poll, with `Finds` and `Misses` for the two answers that mean
  something about the target.
* `Gathered` is that of the helper and what comes before it, and `Reported` that of the findings.
  `Unfit` is the refusal of the helper that only means that the target is not active.
* `Turned` is a turn, and `Watching` is one turn after the other until the turns are used up, the
  flag is found set, or a turn fails.
* `step_speaks` and `watch_speaks` say that a trace keeps to them, whatever the server answers.

Failures that are not about the target are `Ordinary`. `Turned.missed` says that a turn ends with
the target gone only where its poll has missed the target; so no error of the server is taken for
the end of the process.
-/

namespace PgVitals.Trace

open PgVitals.Number

/-- A failure that is not about a target that is gone. -/
def Ordinary (failure : Failure) : Prop := ∀ pid, failure ≠ .targetGone pid

/-- What an error of the driver means is ordinary. -/
theorem ordinary_meaning (sql : String) (error : DriverError) (link : Link) :
    Ordinary (Run.meaning sql error link) := by
  intro pid
  unfold Run.meaning
  split
  · simp
  · split <;> simp

theorem ordinary_fault (fault : Fault) : Ordinary (.fault fault) := fun pid => by simp

/-! ## Polls -/

/-- What is printed when the target is gone. -/
def Target.goneText (t : Target) : String :=
  "\nNo more session with PID " ++ intText t.pid ++ ", exiting..." ++ "\n"

/-- What is printed when the target runs a query. -/
def Query.newText (q : Query) : String := "\nNew query: " ++ q.text.shown ++ "\n"

/-- An answer to a poll by which the target runs a query: its one row says so. -/
def Finds (answer : Reply) (q : Query) : Prop :=
  ∃ set row, answer.set? = some set ∧ set.rows = [row] ∧ queryOfRow row = .ok (some q)

/-- An answer to a poll by which there is no target. -/
def Misses (answer : Reply) : Prop := ∃ set, answer.set? = some set ∧ set.rows = []

/-- What a poll says and finds. -/
inductive Polled (t : Target) : Bool → Grammar (Option Query)
  | unsent {failure : Failure} (ordinary : Ordinary failure) :
      Polled t false [] (.error (.failed failure))
  | refused {answer : Reply} {error : DriverError} (refuses : answer.outcome = .refused error) :
      Polled t true [.asked t.activityQuery answer]
        (.error (.failed (answer.meaning t.activityQuery error)))
  | unreadable {answer : Reply} {failure : Failure} (accepts : answer.accepts = true)
      (there : ¬ Misses answer) (ordinary : Ordinary failure) :
      Polled t true [.asked t.activityQuery answer] (.error (.failed failure))
  | gone {answer : Reply} (misses : Misses answer) :
      Polled t true [.asked t.activityQuery answer, .printed t.goneText]
        (.error (.failed (.targetGone (some t.pid))))
  | idle {answer : Reply} (accepts : answer.accepts = true) (there : ¬ Misses answer) :
      Polled t true [.asked t.activityQuery answer] (.ok none)
  | active {answer : Reply} {q : Query} (finds : Finds answer q) :
      Polled t true [.asked t.activityQuery answer, .printed q.newText] (.ok (some q))

theorem poll_speaks (t : Target) (up : Bool) : Run.Speaks up (poll t) (Polled t up) := by
  unfold poll
  refine .rows_bind (fun words stop sent => ?_) fun answer set opened brings => ?_
  · cases sent with
    | unsent => exact .unsent (ordinary_meaning _ _ _)
    | refused refuses => exact .refused refuses
  subst opened
  have accepts := Reply.accepts_of_set? brings
  -- No session, one session, or more rows than a process can have.
  split
  · rename_i none
    exact .printLine_bind (.fail (by simp) (.gone ⟨set, brings, none⟩))
  · rename_i row one
    have there : ¬ Misses answer := by
      rintro ⟨other, brought, none⟩
      cases brings.symm.trans brought
      exact absurd (one.symm.trans none) (by simp)
    refine .ofFault_bind (fun fault _ => .unreadable accepts there (ordinary_fault fault))
      fun query read => ?_
    cases query with
    | none => exact .pure (.idle accepts there)
    | some q =>
      exact .printValue_bind (fun fault => .unreadable accepts there (ordinary_fault fault))
        (.pure (.active ⟨set, row, brings, one, read⟩))
  · rename_i some_ many
    refine .pure (.idle accepts ?_)
    rintro ⟨other, brought, none⟩
    cases brings.symm.trans brought
    exact some_ none

/-- A poll after which the target is gone has missed it. -/
theorem Polled.missed {t : Target} {up : Bool} {words : List Event} {pid : Option Int}
    (h : Polled t up words (.error (.failed (.targetGone pid)))) :
    pid = some t.pid ∧ ∃ reply after,
      words = .asked t.activityQuery reply :: after ∧ Misses reply := by
  generalize ended : (.error (.failed (.targetGone pid)) : Except Stop (Option Query)) = result at h
  cases h with
  | unsent ordinary | unreadable _ _ ordinary =>
    cases ended
    exact absurd rfl (ordinary pid)
  | refused =>
    exact absurd (Stop.failed.inj (Except.error.inj ended)).symm (ordinary_meaning _ _ _ pid)
  | gone misses =>
    cases ended
    exact ⟨rfl, _, _, rfl, misses⟩
  | idle => cases ended
  | active => cases ended

/-! ## Traces of a query -/

/-- A refusal of the helper that means no more than that the target is not active: it has the
SQLSTATE of the helper, and the connection is still open. -/
def Unfit (reply : Reply) : Prop :=
  reply.closes = false ∧ ∃ error, reply.outcome = .refused error ∧ error.kind ≠ .cancelled ∧
    error.code = some refusal

/-- How the processes are counted before the helper starts: not at all for a single process, and
otherwise by one statement. Over an open connection it says whether that is still open. -/
inductive Counted (t : Target) : Bool → List Event → Bool → Prop
  | alone {up : Bool} (single : t.workers = false) : Counted t up [] up
  | counted (group : t.workers = true) {reply : Reply} (accepts : reply.accepts = true) :
      Counted t true [.asked t.workersQuery reply] (!reply.closes)

/-- What the helper, and what comes before it, says and finds. -/
inductive Gathered (t : Target) : Bool → Grammar (Option Findings)
  | uncounted {failure : Failure} (ordinary : Ordinary failure) :
      Gathered t false [] (.error (.failed failure))
  | countRefused (group : t.workers = true) {reply : Reply} {error : DriverError}
      (refuses : reply.outcome = .refused error) :
      Gathered t true [.asked t.workersQuery reply]
        (.error (.failed (reply.meaning t.workersQuery error)))
  | uncountable (group : t.workers = true) {reply : Reply} (accepts : reply.accepts = true)
      {failure : Failure} (ordinary : Ordinary failure) :
      Gathered t true [.asked t.workersQuery reply] (.error (.failed failure))
  | unsent {up : Bool} {counts : List Event} {failure : Failure} (ordinary : Ordinary failure)
      (counted : Counted t up counts false) : Gathered t up counts (.error (.failed failure))
  | unfit {up : Bool} {counts : List Event} {reply : Reply} (counted : Counted t up counts true)
      (unfit : Unfit reply) : Gathered t up (counts ++ [.asked t.helperQuery reply]) (.ok none)
  | refused {up : Bool} {counts : List Event} {reply : Reply} {error : DriverError}
      (counted : Counted t up counts true) (refuses : reply.outcome = .refused error)
      (fit : ¬ Unfit reply) :
      Gathered t up (counts ++ [.asked t.helperQuery reply])
        (.error (.failed (reply.meaning t.helperQuery error)))
  | helped {up : Bool} {counts : List Event} {reply : Reply} (counted : Counted t up counts true)
      (accepts : reply.accepts = true) (findings : Findings) :
      Gathered t up (counts ++ [.asked t.helperQuery reply]) (.ok (some findings))

/-- What is done once the processes are counted. -/
def callHelper (t : Target) (processes : Value) : Run (Option Findings) :=
  Run.rescue ((fun rows => some ⟨processes, rows⟩) <$> Run.rows t.helperQuery) fun failure =>
    match failure with
    | .query message _ (some code) =>
      if code = refusal then do
        Run.log .debug ("helper refused PID " ++ intText t.pid ++ ": " ++ message)
        return none
      else Run.fail failure
    | failure => Run.fail failure

theorem gather_eq (t : Target) :
    gather t =
      (if t.workers then Run.rows t.workersQuery >>= Run.firstCell else pure .null) >>=
        callHelper t := by
  unfold gather
  split
  · rw [bind_assoc]
    rfl
  · rfl

/-- A refusal that means something about the target is told from all others by its SQLSTATE. -/
theorem meaning_of_fit {t : Target} {reply : Reply} {error : DriverError}
    (refuses : reply.outcome = .refused error) (fit : ¬ Unfit reply) {message sql : String} :
    reply.meaning t.helperQuery error ≠ .query message sql (some refusal) := by
  intro same
  unfold Reply.meaning Run.meaning at same
  split at same
  · cases same
  · rename_i kind
    split at same
    · cases same
    · rename_i up
      injection same with _ _ code
      refine fit ⟨?_, error, refuses, kind, code⟩
      cases closes : reply.closes with
      | false => rfl
      | true => exact absurd (by simp [closes]) up

theorem meaning_of_unfit {reply : Reply} {error : DriverError}
    (refuses : reply.outcome = .refused error) (unfit : Unfit reply) (statement : Statement) :
    reply.meaning statement error = .query error.reason statement.sql (some refusal) := by
  obtain ⟨opens, other, refused, kind, code⟩ := unfit
  cases refuses.symm.trans refused
  simp [Reply.meaning, Run.meaning, opens, kind, code]

/-- Only a failure that is told by its SQLSTATE to be about the target is taken up. -/
theorem callHelper_speaks (t : Target) (processes : Value) {up left : Bool} {counts : List Event}
    (counted : Counted t up counts left) :
    Run.Speaks left (callHelper t processes) fun words result =>
      Gathered t up (counts ++ words) result := by
  unfold callHelper
  refine .rows_rescue (fun reply set opened brings => ?_) fun words failure sent => ?_
  · subst opened
    exact .helped counted (Reply.accepts_of_set? brings) _
  · cases sent with
    | @unsent link down =>
      have ordinary := ordinary_meaning t.helperQuery.sql connectionClosed link
      have lost : Run.meaning t.helperQuery.sql connectionClosed link =
          .connection (.lost (Text.trim connectionClosed.text)) := by
        simp [Run.meaning, connectionClosed, down]
      rw [lost] at ordinary ⊢
      refine .fail (by simp) ?_
      rw [List.append_nil, List.append_nil]
      exact .unsent ordinary counted
    | @refused reply error refuses =>
      by_cases unfit : Unfit reply
      · rw [meaning_of_unfit refuses unfit]
        simp only [if_true]
        refine .log_bind (.pure ?_)
        rw [List.append_nil]
        exact .unfit counted unfit
      · have failed : Gathered t up (counts ++ ([.asked t.helperQuery reply] ++ []))
            (.error (.failed (reply.meaning t.helperQuery error))) := by
          rw [List.append_nil]
          exact .refused counted refuses unfit
        split
        · rename_i message sql code same
          split
          · rename_i isRefusal
            exact absurd (isRefusal ▸ same) (meaning_of_fit refuses unfit)
          · exact .fail (Run.meaning_ne_signal _ _ _) failed
        · exact .fail (Run.meaning_ne_signal _ _ _) failed

theorem gather_speaks (t : Target) (up : Bool) : Run.Speaks up (gather t) (Gathered t up) := by
  rw [gather_eq]
  split
  · rename_i group
    rw [bind_assoc]
    refine .rows_bind (fun words stop sent => ?_) fun reply set opened brings => ?_
    · cases sent with
      | unsent => exact .uncounted (ordinary_meaning _ _ _)
      | refused refuses => exact .countRefused group refuses
    · subst opened
      have accepts := Reply.accepts_of_set? brings
      refine .firstCell_bind (.uncountable group accepts (ordinary_fault _)) fun cell _ _ _ => ?_
      exact callHelper_speaks t cell (.counted group accepts)
  · rename_i single
    exact callHelper_speaks t .null (.alone (by simpa using single))

/-! ## Findings -/

/-- Nothing but output. -/
def Printed (words : List Event) : Prop := ∀ event ∈ words, ∃ text, event = .printed text

/-- The ways a turn with a running helper can end: it returns, or it fails in an ordinary way. -/
inductive Over {α : Type} : Except Stop α → Prop
  | returned (a : α) : Over (.ok a)
  | failed {failure : Failure} (ordinary : Ordinary failure) : Over (.error (.failed failure))

/-- What is said of findings: the durations are asked for, and then only output follows. -/
inductive Reported (q : Query) : Bool → Grammar Histogram
  | unsent {failure : Failure} (ordinary : Ordinary failure) :
      Reported q false [] (.error (.failed failure))
  | refused {answer : Reply} {error : DriverError} (refuses : answer.outcome = .refused error) :
      Reported q true [.asked (durationQuery q) answer]
        (.error (.failed (answer.meaning (durationQuery q) error)))
  | told {answer : Reply} (accepts : answer.accepts = true) {lines : List Event}
      {result : Except Stop Histogram} (printed : Printed lines) (finished : Over result) :
      Reported q true (.asked (durationQuery q) answer :: lines) result

/-- Nothing but output is said, and the run is over. -/
def Printing {α : Type} : Grammar α := fun words result => Printed words ∧ Over result

theorem Printing.pure {α : Type} {up : Bool} (a : α) :
    Run.Speaks up (Pure.pure a : Run α) Printing :=
  .pure ⟨by simp [Printed], .returned a⟩

theorem Printing.printLine_bind {α : Type} {up : Bool} {text : String} {f : Unit → Run α}
    (h : Run.Speaks up (f ()) Printing) : Run.Speaks up (Run.printLine text >>= f) Printing := by
  refine .printLine_bind (h.mono fun words result printing => ⟨?_, printing.2⟩)
  intro event member
  rcases List.mem_cons.mp member with rfl | member
  · exact ⟨_, rfl⟩
  · exact printing.1 event member

theorem Printing.ofFault_bind {α β : Type} {up : Bool} {e : Except Fault α} {f : α → Run β}
    (h : ∀ a, Run.Speaks up (f a) Printing) : Run.Speaks up (Run.ofFault e >>= f) Printing :=
  .ofFault_bind (fun fault _ => ⟨by simp [Printed], .failed (ordinary_fault fault)⟩) fun a _ => h a

theorem Printing.printValue_bind {α : Type} {up : Bool} {label : String} {v : Value}
    {f : Unit → Run α} (h : Run.Speaks up (f ()) Printing) :
    Run.Speaks up (Run.printValue label v >>= f) Printing := by
  unfold Run.printValue
  rw [bind_assoc]
  exact ofFault_bind fun _ => printLine_bind h

theorem report_speaks (q : Query) (f : Findings) (up : Bool) :
    Run.Speaks up (report q f) (Reported q up) := by
  unfold report
  refine .rows_bind (fun words stop sent => ?_) fun answer set opened brings => ?_
  · cases sent with
    | unsent => exact .unsent (ordinary_meaning _ _ _)
    | refused refuses => exact .refused refuses
  subst opened
  have rest : Run.Speaks (!answer.closes) (do
      let histogram ← Run.ofFault (Histogram.ofRows f.rows)
      Run.printLine (← Run.ofFault histogram.render)
      return histogram) Printing :=
    Printing.ofFault_bind fun histogram => Printing.ofFault_bind fun table =>
      Printing.printLine_bind (Printing.pure histogram)
  refine Run.Speaks.mono (Printing.ofFault_bind fun durations =>
    Printing.printValue_bind (Printing.printValue_bind ?_)) fun words result printing =>
      .told (Reply.accepts_of_set? brings) printing.1 printing.2
  split
  · exact Printing.printValue_bind rest
  · exact rest

/-- What a trace of a query says: where the helper has found something, it is reported. -/
inductive Traced (t : Target) (q : Query) : Bool → Grammar (Option Histogram)
  | failed {up : Bool} {words : List Event} {stop : Stop}
      (gathered : Gathered t up words (.error stop)) : Traced t q up words (.error stop)
  | unfit {up : Bool} {words : List Event} (gathered : Gathered t up words (.ok none)) :
      Traced t q up words (.ok none)
  | reported {up : Bool} {words more : List Event} {findings : Findings}
      {result : Except Stop Histogram} (gathered : Gathered t up words (.ok (some findings)))
      (reported : Reported q (openAfter up words) more result) :
      Traced t q up (words ++ more) (result.map some)

theorem trace_speaks (t : Target) (q : Query) (up : Bool) :
    Run.Speaks up (trace t q) (Traced t q up) := by
  unfold trace
  refine (gather_speaks t up).bind (fun words stop gathered => .failed gathered)
    fun words findings gathered => ?_
  cases findings with
  | none =>
    refine .pure ?_
    rw [List.append_nil]
    exact .unfit gathered
  | some findings =>
    refine (report_speaks q findings _).bind (fun more stop reported => .reported gathered reported)
      fun more histogram reported => .pure ?_
    rw [List.append_nil]
    exact .reported gathered reported

/-! ## Turns -/

/-- What a turn says. -/
inductive Turned (t : Target) : Bool → Grammar Unit
  | failed {up : Bool} {words : List Event} {stop : Stop}
      (polled : Polled t up words (.error stop)) : Turned t up words (.error stop)
  | idle {up : Bool} {words : List Event} (polled : Polled t up words (.ok none)) :
      Turned t up words (.ok ())
  | traced {up : Bool} {words more : List Event} {q : Query}
      {result : Except Stop (Option Histogram)} (polled : Polled t up words (.ok (some q)))
      (traced : Traced t q (openAfter up words) more result) :
      Turned t up (words ++ more) (result.map fun _ => ())

theorem step_speaks (t : Target) (up : Bool) : Run.Speaks up (step t) (Turned t up) := by
  unfold step
  refine (poll_speaks t up).bind (fun words stop polled => .failed polled)
    fun words found polled => ?_
  cases found with
  | none =>
    refine .sleep ?_
    rw [List.append_nil]
    exact .idle polled
  | some q =>
    refine (trace_speaks t q _).bind (fun more stop traced => .traced polled traced)
      fun more histogram traced => .sleep ?_
    rw [List.append_nil]
    exact .traced polled traced

/-- A trace of a query fails in an ordinary way. -/
theorem Traced.ordinary {t : Target} {q : Query} {up : Bool} {words : List Event} {stop : Stop}
    (h : Traced t q up words (.error stop)) :
    ∃ failure, stop = .failed failure ∧ Ordinary failure := by
  generalize ended : (.error stop : Except Stop (Option Histogram)) = result at h
  cases h with
  | failed gathered =>
    cases ended
    cases gathered with
    | uncounted ordinary | uncountable _ _ ordinary | unsent ordinary => exact ⟨_, rfl, ordinary⟩
    | countRefused | refused => exact ⟨_, rfl, ordinary_meaning _ _ _⟩
  | unfit => cases ended
  | @reported words _ _ _ _ report =>
    generalize openAfter up words = left at report
    cases report with
    | unsent ordinary =>
      cases ended
      exact ⟨_, rfl, ordinary⟩
    | refused =>
      cases ended
      exact ⟨_, rfl, ordinary_meaning _ _ _⟩
    | told _ printed finished =>
      cases finished with
      | returned => cases ended
      | failed ordinary =>
        cases ended
        exact ⟨_, rfl, ordinary⟩

/-- A turn after which the target is gone started with a poll that missed it. -/
theorem Turned.missed {t : Target} {up : Bool} {words : List Event} {pid : Option Int}
    (h : Turned t up words (.error (.failed (.targetGone pid)))) :
    pid = some t.pid ∧ ∃ reply after,
      words = .asked t.activityQuery reply :: after ∧ Misses reply := by
  generalize ended : (.error (.failed (.targetGone pid)) : Except Stop Unit) = result at h
  cases h with
  | failed polled =>
    cases ended
    exact polled.missed
  | idle => cases ended
  | @traced _ _ _ result _ traced =>
    cases result with
    | ok _ => cases ended
    | error stop =>
      cases ended
      obtain ⟨failure, same, ordinary⟩ := traced.ordinary
      exact absurd (Stop.failed.inj same).symm (ordinary pid)

/-- What a trace says turn by turn, until its turns are used up, the flag is found set, or a turn
fails. -/
inductive Watching (t : Target) : Bool → Grammar Unit
  | unfinished {up : Bool} : Watching t up [] (.error .unfinished)
  | interrupted {up : Bool} : Watching t up [] (.error (.failed (.interrupted .signal)))
  | failed {up : Bool} {words : List Event} {stop : Stop}
      (turned : Turned t up words (.error stop)) : Watching t up words (.error stop)
  | turn {up : Bool} {words more : List Event} {result : Except Stop Unit}
      (turned : Turned t up words (.ok ())) (rest : Watching t (openAfter up words) more result) :
      Watching t up (words ++ more) result

/-- Turns are taken until one of them fails, or until the user wants the end. -/
theorem watch_speaks (t : Target) (fuel : Nat) (up : Bool) :
    Run.Speaks up (watch t fuel) (Watching t up) := by
  induction fuel generalizing up with
  | zero => exact fun w s _ => ⟨[], .rest, .unfinished, fun same => by cases same⟩
  | succ fuel ih =>
    intro w s opened
    have look : Says w s [] (s.after w .looked) := Says.note .looked rfl
    rw [perform_watch]
    split
    · rename_i aware
      exact ⟨[], look, .interrupted, fun _ => aware⟩
    · have turn : Run.Speaks up (step t >>= fun _ => watch t fuel) (Watching t up) :=
        (step_speaks t up).bind (fun words stop turned => .failed turned) fun words _ turned =>
          (ih _).mono fun more result rest => .turn turned rest
      have still : decide ((s.after w .looked).link = .up) = up := by
        rw [← opened, look.link]
        rfl
      obtain ⟨words, spoken, watching, aware⟩ := turn w _ still
      exact ⟨words, look.trans spoken, watching, aware⟩

end PgVitals.Trace
