import PgVitals.Proofs.Session.Returning
import PgVitals.Proofs.Session.Saying
import PgVitals.Report.Live
import PgVitals.Trace.Helper
/-!
# What becomes of a refusal

A statement that the server refuses has a meaning for the run, by the kind of the error and by
whether the connection is still there. Most code passes this failure on; some of it gives the
failure another name, or does without the statement. How that is for a run is its handling of
refusals. A run surfaces its refusals if every failure of the server that it ends with is the
meaning of a refusal as its handling has it, no refusal is lost, and no error of the driver gets out
as it is.

* `Handling` says what becomes of the meaning of a refused statement, by the statements sent before
  it. `Handling.plain` passes everything on; `Handling.first`, `Handling.after` and
  `Handling.behind` make the handling of a run out of those of its parts.
* `Surfacing` lists how a run can have ended after some events, and `Run.Surfaces` says that a run
  ends in one of these ways. `Surfaces.bindAfter` and `Surfaces.handled` are the rules for what
  follows a run, and for a statement whose refusal is taken up.
* `Removes` and `Tidies` are teardowns. `Surfaces.cleanup` says that the failure that ended a run is
  the failure that is seen, whatever becomes of the teardown.
* `Classifies` is what is left of it for a caller.

The meaning of an error is stated apart from the function of the program that computes it. Failures
of the program itself, such as a release that is too low, are counted as its own and need no
refusal.
-/

namespace PgVitals

open PgVitals.Text

/-! ## Handlings -/

/-- Whether a failure is about something that the server or the driver has said. -/
def Failure.isServers : Failure → Bool
  | query _ _ _ | driver _ => true
  | connection (.lost _) => true
  | interrupted .cancelledQuery => true
  | releaseUnknown (.queryFailed _) => true
  | config .schemaExists => true
  | _ => false

/-- A failure that is the program's own. Only a program that heeds signals is interrupted by one. -/
structure Failure.Own (heeds : Bool) (failure : Failure) : Prop where
  ours : failure.isServers = false
  signal : failure = .interrupted .signal → heeds = true

/-- What becomes of the meaning of a refused statement, by the statements that were sent before it,
oldest first: another failure or the same, or nothing where the run does without the statement. -/
abbrev Handling := List Statement → Statement → Failure → Option Failure

namespace Handling

/-- Every refusal is passed on. -/
def plain : Handling := fun _ _ failure => some failure

/-- The first statement has its own turn. -/
def first (turn : Statement → Failure → Option Failure) (rest : Handling) : Handling
  | [], statement, failure => turn statement failure
  | _ :: earlier, statement, failure => rest earlier statement failure

/-- How the refusals of later statements are handled. -/
def after (h : Handling) (sent : List Statement) : Handling := fun earlier => h (sent ++ earlier)

/-- Some statements are passed on before the handling begins. -/
def behind (h : Handling) : Nat → Handling
  | 0 => h
  | count + 1 => first (fun _ failure => some failure) (h.behind count)

/-- The refusals of a statement are passed on, whenever it is sent. -/
def Spares (h : Handling) (statement : Statement) : Prop :=
  ∀ earlier failure, h earlier statement failure = some failure

/-- What was sent before makes no difference. -/
def Steady (h : Handling) : Prop := ∀ sent, h.after sent = h

theorem after_nil (h : Handling) : h.after [] = h := rfl

theorem after_first (turn : Statement → Failure → Option Failure) (rest : Handling)
    (statement : Statement) : (first turn rest).after [statement] = rest := rfl

theorem first_nil (turn : Statement → Failure → Option Failure) (rest : Handling)
    (statement : Statement) : first turn rest [] statement = turn statement := rfl

theorem Spares.after {h : Handling} {statement : Statement} (spares : h.Spares statement)
    (sent : List Statement) : (h.after sent).Spares statement :=
  fun earlier => spares (sent ++ earlier)

theorem plain_steady : plain.Steady := fun _ => rfl

theorem plain_spares (statement : Statement) : plain.Spares statement := fun _ _ => rfl

end Handling

/-! ## Accounts -/

/-- The statements sent in some events, newest first; the statements are listed oldest first. -/
def sentIn (events : List Event) : List Statement := (exchangesOf events).map Prod.fst

theorem sentIn_append (later earlier : List Event) :
    sentIn (later ++ earlier) = sentIn earlier ++ sentIn later := by
  simp only [sentIn, exchangesOf_append, List.map_append]

theorem sentIn_silent {events : List Event} (silent : Silent events) : sentIn events = [] := by
  rw [sentIn, exchangesOf_silent silent]
  rfl

/-- The run did without every statement that was refused. -/
def Excused (h : Handling) (new : List Event) : Prop :=
  Lawful (fun event earlier => ∀ statement reply error, event = .asked statement reply →
    reply.outcome = .refused error →
      h (sentIn earlier) statement (reply.meaning statement error) = none) new

/-- From `s` to `s'` the events `new` happened, newest first; the connection was lost over an
answer, if at all. -/
structure Leads (s : Session) (new : List Event) (s' : Session) : Prop where
  past : s'.past = new ++ s.past
  link : s'.link = if new.any Event.closes then .lost else s.link

/-- Where a failure comes from that ends a run after some events, over a connection that was in some
state before. -/
inductive Raised (heeds : Bool) (h : Handling) (link : Link) : List Event → Failure → Prop
  /-- The program fails by itself. -/
  | own {new : List Event} {failure : Failure} (excused : Excused h new)
      (own : failure.Own heeds) : Raised heeds h link new failure
  /-- The connection is gone, and the next statement is not sent. -/
  | unsent {new : List Event} (excused : Excused h new)
      (down : link ≠ .up ∨ new.any Event.closes = true) :
      Raised heeds h link new (.connection (.lost (trim connectionClosed.text)))
  /-- A statement is refused. -/
  | refused {later earlier : List Event} {statement : Statement} {reply : Reply}
      {error : DriverError} {failure : Failure} (excused : Excused h earlier)
      (last : Silent later) (refuses : reply.outcome = .refused error)
      (handled : h (sentIn earlier) statement (reply.meaning statement error) = some failure)
      (reported : failure.isReported = true) :
      Raised heeds h link (later ++ .asked statement reply :: earlier) failure

/-- Whether a statement removes what a run has created. -/
def Statement.isTeardown (statement : Statement) : Bool :=
  [Catalog.Report.dropSchema, Trace.dropSchema, Trace.dropTable].contains statement.sql

/-- Statements that remove what a run has created, while a failure is under way. A refusal is told
in a warning, before anything else is sent. -/
inductive Closing : List Event → Prop
  | done : Closing []
  | other {event : Event} {new : List Event} (silent : event.statement? = none)
      (before : Closing new) : Closing (event :: new)
  | accepted {statement : Statement} {reply : Reply} {new : List Event}
      (teardown : statement.isTeardown = true) (accepts : reply.accepts = true)
      (before : Closing new) : Closing (.asked statement reply :: new)
  | warned {statement : Statement} {reply : Reply} {error : DriverError}
      {between new : List Event} (text : String) (teardown : statement.isTeardown = true)
      (refuses : reply.outcome = .refused error) (quiet : Silent between) (before : Closing new) :
      Closing (.logged .warning (text ++ (reply.meaning statement error).message) ::
        (between ++ .asked statement reply :: new))

/-- How a run has ended after some events. -/
inductive Surfacing {α : Type} (heeds : Bool) (h : Handling) (link : Link) :
    List Event → Except Stop α → Prop
  | returned {new : List Event} (excused : Excused h new) (a : α) :
      Surfacing heeds h link new (.ok a)
  | cut {new : List Event} (excused : Excused h new) :
      Surfacing heeds h link new (.error .unfinished)
  | failed {closing before : List Event} {failure : Failure} (closes : Closing closing)
      (raised : Raised heeds h link before failure) :
      Surfacing heeds h link (closing ++ before) (.error (.failed failure))

/-- Every refusal that a run meets is handled as it should be, and every failure that it ends with
is accounted for. -/
def Run.Surfaces {α : Type} (heeds : Bool) (h : Handling) (r : Run α) : Prop :=
  ∀ w s, ∃ new, Leads s new (r.perform w s).2 ∧ Surfacing heeds h s.link new (r.perform w s).1

variable {α β : Type} {heeds : Bool} {h : Handling} {link : Link} {w : Surroundings}
  {s s' s'' : Session} {new later earlier : List Event} {failure : Failure}

/-! ## Events -/

namespace Excused

theorem silent (silent : Silent new) : Excused h new := by
  induction new with
  | nil => exact trivial
  | cons event new ih =>
    refine ⟨fun statement reply error same _ => ?_, ih ?_⟩
    · subst same
      exact absurd List.mem_cons_self (silent.not_asked statement reply)
    · exact fun other member => silent other (List.mem_cons_of_mem _ member)

theorem append (before : Excused h earlier) (rest : Excused (h.after (sentIn earlier)) later) :
    Excused h (later ++ earlier) := by
  induction later with
  | nil => exact before
  | cons event later ih =>
    refine ⟨fun statement reply error same refuses => ?_, ih rest.2⟩
    show h (sentIn (later ++ earlier)) statement (reply.meaning statement error) = none
    rw [sentIn_append]
    exact rest.1 statement reply error same refuses

/-- An accepted statement is no refusal. -/
theorem accepted {statement : Statement} {reply : Reply} (accepts : reply.accepts = true)
    (before : Excused h earlier) : Excused h (.asked statement reply :: earlier) := by
  refine ⟨fun _ _ error same refuses => ?_, before⟩
  cases same
  rw [Reply.accepts_refused refuses] at accepts
  cases accepts

end Excused

namespace Leads

theorem rest : Leads s [] s := ⟨rfl, rfl⟩

theorem trans (h₁ : Leads s new s') (h₂ : Leads s' later s'') : Leads s (later ++ new) s'' where
  past := by rw [h₂.past, h₁.past, List.append_assoc]
  link := by
    rw [h₂.link, h₁.link, List.any_append]
    cases later.any Event.closes <;> simp

theorem of_passage {A : Statement → Prop} (passage : Passage w A s new s') : Leads s new s' :=
  ⟨passage.past, passage.link⟩

end Leads

theorem Closing.append {closing : List Event} (before : Closing new) (after : Closing closing) :
    Closing (closing ++ new) := by
  induction after with
  | done => exact before
  | other silent _ ih => exact .other silent ih
  | accepted teardown accepts _ ih => exact .accepted teardown accepts ih
  | warned text teardown refuses quiet _ ih =>
    rw [List.cons_append, List.append_assoc, List.cons_append]
    exact .warned text teardown refuses quiet ih

theorem Closing.silent {quiet : List Event} (before : Closing new) (silent : Silent quiet) :
    Closing (quiet ++ new) := by
  induction quiet with
  | nil => exact before
  | cons event quiet ih =>
    exact .other (silent event List.mem_cons_self)
      (ih fun event member => silent event (List.mem_cons_of_mem _ member))

theorem Closing.of_silent {quiet : List Event} (silent : Silent quiet) : Closing quiet := by
  rw [← List.append_nil quiet]
  exact Closing.done.silent silent

namespace Raised

/-- What came before goes into the account. -/
theorem behind {link' : Link} (excused : Excused h earlier)
    (leads : link' = if earlier.any Event.closes then .lost else link)
    (raised : Raised heeds (h.after (sentIn earlier)) link' new failure) :
    Raised heeds h link (new ++ earlier) failure := by
  cases raised with
  | own rest own => exact .own (excused.append rest) own
  | unsent rest down =>
    refine .unsent (excused.append rest) ?_
    rw [List.any_append]
    cases lost : earlier.any Event.closes with
    | true => exact .inr (by simp)
    | false =>
      rw [leads, lost] at down
      simpa using down
  | refused rest last refuses handled reported =>
    rw [List.append_assoc, List.cons_append]
    refine .refused (excused.append rest) last refuses ?_ reported
    rw [sentIn_append]
    exact handled

/-- No error of the driver gets out as it is. -/
theorem undriven (raised : Raised heeds h link new failure) (error : DriverError) :
    failure ≠ .driver error := by
  rintro rfl
  cases raised with
  | own _ own => exact absurd own.ours nofun
  | refused _ _ _ _ reported => cases reported

end Raised

namespace Surfacing

theorem behind {link' : Link} {result : Except Stop α} (excused : Excused h earlier)
    (leads : link' = if earlier.any Event.closes then .lost else link)
    (rest : Surfacing heeds (h.after (sentIn earlier)) link' new result) :
    Surfacing heeds h link (new ++ earlier) result := by
  cases rest with
  | returned rest a => exact .returned (excused.append rest) a
  | cut rest => exact .cut (excused.append rest)
  | failed closes raised =>
    rw [List.append_assoc]
    exact .failed closes (raised.behind excused leads)

theorem undriven {result : Except Stop α} (account : Surfacing heeds h link new result)
    (error : DriverError) : result ≠ .error (.failed (.driver error)) := by
  rintro rfl
  cases account with
  | failed _ raised => exact raised.undriven error rfl

theorem raised (raised : Raised heeds h link new failure) :
    Surfacing (α := α) heeds h link new (.error (.failed failure)) :=
  .failed .done raised

end Surfacing

namespace Run

variable {r : Run α} {f : α → Run β}

/-! ## Runs that send nothing -/

/-- A run that sends nothing, and fails only by itself. -/
structure Hushed (heeds : Bool) (r : Run α) : Prop where
  leads : ∀ w s, ∃ new, Leads s new (r.perform w s).2 ∧ Silent new
  own : ∀ w s failure, (r.perform w s).1 = .error (.failed failure) → failure.Own heeds

theorem Hushed.surfaces (hushed : Hushed heeds r) : Surfaces heeds h r := by
  intro w s
  obtain ⟨new, leads, silent⟩ := hushed.leads w s
  have own := hushed.own w s
  refine ⟨new, leads, ?_⟩
  cases ended : (r.perform w s).1 with
  | ok a => exact .returned (.silent silent) a
  | error stop =>
    cases stop with
    | unfinished => exact .cut (.silent silent)
    | failed failure => exact .raised (.own (.silent silent) (own failure ended))

namespace Hushed

theorem pure (a : α) : Hushed heeds (Pure.pure a : Run α) :=
  ⟨fun _ _ => ⟨[], .rest, by simp [Silent]⟩, fun _ _ _ h => by cases h⟩

theorem fail {failure : Failure} (own : failure.Own heeds) :
    Hushed heeds (Run.fail failure : Run α) :=
  ⟨fun _ _ => ⟨[], .rest, by simp [Silent]⟩, fun _ _ _ h => by cases h; exact own⟩

theorem unfinished : Hushed heeds (throw .unfinished : Run α) :=
  ⟨fun _ _ => ⟨[], .rest, by simp [Silent]⟩, fun _ _ _ h => by cases h⟩

theorem get : Hushed heeds (MonadState.get : Run Session) :=
  ⟨fun _ _ => ⟨[], .rest, by simp [Silent]⟩, fun _ _ _ h => by cases h⟩

theorem read : Hushed heeds (MonadReader.read : Run Surroundings) :=
  ⟨fun _ _ => ⟨[], .rest, by simp [Silent]⟩, fun _ _ _ h => by cases h⟩

/-- The rest of the session is no business of its events. -/
theorem modify {f : Session → Session} (past : ∀ s, (f s).past = s.past)
    (link : ∀ s, (f s).link = s.link) : Hushed heeds (modify f : Run PUnit) :=
  ⟨fun _ s => ⟨[], ⟨past s, link s⟩, by simp [Silent]⟩, fun _ _ _ h => by cases h⟩

theorem hold (change : Holdings → Holdings) : Hushed heeds (Run.hold change) :=
  modify (fun _ => rfl) fun _ => rfl

theorem note {event : Event} (note : event.isNote = true) : Hushed heeds (Run.note event) := by
  refine ⟨fun w s => ?_, fun _ _ _ h => by cases h⟩
  obtain ⟨signals, quiet⟩ := Stretch.note (w := w) (s := s) event note
  exact ⟨_, .of_passage quiet.toPassage, quiet.silent⟩

theorem log (level : LogLevel) (text : String) : Hushed heeds (Run.log level text) := note rfl

theorem printLine (text : String) : Hushed heeds (Run.printLine text) := note rfl

theorem sleep (seconds : Value) : Hushed heeds (Run.sleep seconds) := note rfl

theorem bind (hr : Hushed heeds r) (hf : ∀ a, Hushed heeds (f a)) : Hushed heeds (r >>= f) := by
  constructor
  · intro w s
    obtain ⟨new, leads, silent⟩ := hr.leads w s
    rw [perform_bind]
    rcases ended : r.perform w s with ⟨stop | a, s'⟩ <;> rw [ended] at leads
    · exact ⟨new, leads, silent⟩
    · obtain ⟨later, more, quiet⟩ := (hf a).leads w s'
      exact ⟨later ++ new, leads.trans more, quiet.append silent⟩
  · intro w s failure fails
    have own := hr.own w s
    rw [perform_bind] at fails
    rcases ended : r.perform w s with ⟨stop | a, s'⟩ <;> rw [ended] at fails own
    · cases fails
      exact own failure rfl
    · exact (hf a).own w s' failure fails

theorem map {g : α → β} (hr : Hushed heeds r) : Hushed heeds (g <$> r) := by
  rw [← bind_pure_comp]
  exact hr.bind fun a => pure (g a)

theorem rescue {handle : Failure → Run α} (hr : Hushed heeds r)
    (hh : ∀ failure, failure.Own heeds → Hushed heeds (handle failure)) :
    Hushed heeds (Run.rescue r handle) := by
  constructor
  · intro w s
    obtain ⟨new, leads, silent⟩ := hr.leads w s
    have own := hr.own w s
    rw [perform_rescue]
    rcases ended : r.perform w s with ⟨(failure | -) | a, s'⟩ <;> rw [ended] at leads own
    · obtain ⟨later, more, quiet⟩ := (hh failure (own failure rfl)).leads w s'
      exact ⟨later ++ new, leads.trans more, quiet.append silent⟩
    · exact ⟨new, leads, silent⟩
    · exact ⟨new, leads, silent⟩
  · intro w s failure fails
    have own := hr.own w s
    rw [perform_rescue] at fails
    rcases ended : r.perform w s with ⟨(cause | -) | a, s'⟩ <;> rw [ended] at fails own
    · exact (hh cause (own cause rfl)).own w s' failure fails
    · cases fails
    · cases fails

theorem ofExcept {e : Except Failure α} (own : ∀ failure, e = .error failure → failure.Own heeds) :
    Hushed heeds (Run.ofExcept e) := by
  cases e with
  | error failure => exact fail (own failure rfl)
  | ok a => exact pure a

theorem fault (fault : Fault) : (Failure.fault fault).Own heeds := ⟨rfl, nofun⟩

theorem ofFault (e : Except Fault α) : Hushed heeds (Run.ofFault e) := by
  cases e with
  | error cause => exact fail (fault cause)
  | ok a => exact pure a

theorem printValue (label : String) (v : Value) : Hushed heeds (Run.printValue label v) :=
  (ofFault _).bind fun _ => printLine _

theorem firstCell (rows : List (List Value)) : Hushed heeds (Run.firstCell rows) := by
  unfold Run.firstCell
  split
  · exact pure _
  · exact fail (fault _)

theorem forM {items : List α} {f : α → Run PUnit} (each : ∀ a, Hushed heeds (f a)) :
    Hushed heeds (items.forM f) := by
  induction items with
  | nil => exact pure _
  | cons a items ih => exact (each a).bind fun _ => ih

theorem shutdownWanted : Hushed heeds Run.shutdownWanted :=
  (note rfl).bind fun _ => get.bind fun _ => pure _

theorem logWritten (level : LogLevel) (text : Except Fault String) :
    Hushed heeds (Run.logWritten level text) := by
  have looked : Hushed heeds (Run.isLogged level) := by
    refine get.bind fun s => ?_
    split <;> exact pure _
  refine looked.bind fun shown => ?_
  split
  · split
    · exact log _ _
    · refine read.bind fun w => ?_
      split
      · exact fail (fault _)
      · exact pure _
  · exact pure _

end Hushed

/-! ## Runs that surface their refusals -/

/-- On returning, a run has sent some statements. -/
def Sends (r : Run α) (sent : List Statement) : Prop :=
  ∀ w s a s', r.perform w s = (.ok a, s') →
    ∃ exchanges, s'.exchanges = s.exchanges ++ exchanges ∧ exchanges.map Prod.fst = sent

theorem sends_execute (sql : String) : Sends (execute sql) [.plain sql] := by
  intro w s a s' returned
  obtain ⟨reply, did⟩ := execute_returns returned
  exact ⟨_, did.exchanges, rfl⟩

namespace Surfaces

/-- What follows has the handling of later statements. -/
theorem bindAfter (hr : Surfaces heeds h r)
    (hf : ∀ w s a new, Leads s new (r.perform w s).2 → (r.perform w s).1 = .ok a →
      Surfaces heeds (h.after (sentIn new)) (f a)) :
    Surfaces heeds h (r >>= f) := by
  intro w s
  obtain ⟨new, leads, account⟩ := hr w s
  have goes := hf w s
  rw [perform_bind]
  rcases ended : r.perform w s with ⟨stop | a, s'⟩ <;> rw [ended] at leads account goes
  · refine ⟨new, leads, ?_⟩
    cases account with
    | cut excused => exact .cut excused
    | failed closes raised => exact .failed closes raised
  · cases account with
    | returned excused =>
      obtain ⟨later, more, rest⟩ := goes a new leads rfl w s'
      exact ⟨later ++ new, leads.trans more, rest.behind excused leads.link⟩

theorem bind (steady : h.Steady) (hr : Surfaces heeds h r) (hf : ∀ a, Surfaces heeds h (f a)) :
    Surfaces heeds h (r >>= f) :=
  hr.bindAfter fun _ _ a new _ _ => by
    rw [steady]
    exact hf a

/-- Where it is known what a run sends, so is the handling of what follows. -/
theorem bindSends {sent : List Statement} (hr : Surfaces heeds h r) (sends : Sends r sent)
    (hf : ∀ a, Surfaces heeds (h.after sent) (f a)) : Surfaces heeds h (r >>= f) := by
  refine hr.bindAfter fun w s a new leads returned => ?_
  obtain ⟨exchanges, added, rfl⟩ := sends w s a (r.perform w s).2 (by rw [← returned])
  have same : exchangesOf new = exchanges := by
    rw [Session.exchanges, leads.past, exchangesOf_append] at added
    exact List.append_cancel_left added
  rw [sentIn, same]
  exact hf a

theorem andThen (hr : Surfaces heeds h r) (hf : ∀ a, Hushed heeds (f a)) :
    Surfaces heeds h (r >>= f) :=
  hr.bindAfter fun _ _ a _ _ _ => (hf a).surfaces

end Surfaces

/-- What comes before without a statement changes no handling. -/
theorem Hushed.andThen (hr : Hushed heeds r) (hf : ∀ a, Surfaces heeds h (f a)) :
    Surfaces heeds h (r >>= f) := by
  refine hr.surfaces.bindAfter fun w s a new leads _ => ?_
  obtain ⟨new', leads', silent⟩ := hr.leads w s
  have same : new' = new := List.append_cancel_right (leads'.past.symm.trans leads.past)
  rw [← same, sentIn_silent silent, h.after_nil]
  exact hf a

namespace Surfaces

/-- The meaning of a refusal, as an open connection has it afterwards. -/
theorem meaning_answered {statement : Statement} {error : DriverError} (up : s.link = .up) :
    meaning statement.sql error (s.answered w statement).link =
      (w.reply s.past statement).meaning statement error := by
  rw [Session.link_answered, up]
  rfl

/-- A statement whose refusal is taken up: it gets another name, or the run does without it. -/
theorem handled {statement : Statement} {g : ResultSet → α} {handle : Failure → Run α}
    (turns : ∀ failure, failure.isReported = true →
      (∃ failure', h [] statement failure = some failure' ∧ failure'.isReported = true ∧
        handle failure = Run.fail failure') ∨
      h [] statement failure = none ∧ Hushed heeds (handle failure) ∧
        ∀ w s, ∃ a, ((handle failure).perform w s).1 = .ok a)
    (lost : ∀ cause, handle (.connection cause) = Run.fail (.connection cause)) :
    Surfaces heeds h (rescue (g <$> Run.fetch statement) handle) := by
  intro w s
  have ends := fetched w s statement
  rw [perform_rescue, ← bind_pure_comp, perform_bind]
  generalize (Run.fetch statement).perform w s = ended at ends ⊢
  obtain ⟨result, s'⟩ := ended
  simp only at ends
  by_cases up : s.link = .up
  · obtain ⟨quiet, stretch, silent⟩ := ends.sent up
    have leads := Leads.of_passage stretch.toPassage
    cases ends with
    | unsent down => exact absurd up down
    | accepted _ set accepts =>
      refine ⟨_, leads, .returned ?_ _⟩
      exact Excused.append (Excused.accepted accepts (.silent (by simp [Silent])))
        (.silent silent)
    | refused _ error refuses =>
      rw [meaning_answered up]
      rcases turns _ (meaning_isReported ..) with
        ⟨failure, turned, reported, same⟩ | ⟨without, hushed, returns⟩
      · simp only
        rw [Reply.meaning, same]
        refine ⟨_, leads, .raised (.refused (trivial : Excused h []) silent refuses ?_ reported)⟩
        exact turned
      · obtain ⟨later, more, quiet'⟩ := hushed.leads w s'
        obtain ⟨a, returned⟩ := returns w s'
        refine ⟨_, leads.trans more, ?_⟩
        simp only
        rw [Reply.meaning, returned]
        refine .returned ?_ a
        have excused : Excused h [.asked statement (w.reply s.past statement)] := by
          refine ⟨fun _ _ _ same refuses' => ?_, trivial⟩
          cases same
          rw [refuses] at refuses'
          cases refuses'
          exact without
        exact (excused.append (.silent silent)).append (.silent quiet')
  · cases ends with
    | unsent down =>
      have gone : meaning statement.sql connectionClosed s.link =
          .connection (.lost (trim connectionClosed.text)) := by
        rw [meaning, if_neg (by decide), if_pos down]
      simp only
      rw [gone, lost]
      exact ⟨[], .rest, .raised (.unsent trivial (.inl down))⟩
    | accepted up' | refused up' => exact absurd up' up

/-- The program may fail by itself before it goes on. -/
theorem unlessFails {c : Prop} [Decidable c] (own : failure.Own heeds) (hr : Surfaces heeds h r) :
    Surfaces heeds h (if c then (do let () ← Run.fail failure; r) else r) := by
  split
  · exact (Hushed.fail own).andThen fun _ => hr
  · exact hr

theorem congr {r' : Run α} (same : ∀ w s, r.perform w s = r'.perform w s)
    (h' : Surfaces heeds h r') : Surfaces heeds h r := by
  intro w s
  rw [same]
  exact h' w s

/-- A statement whose refusal is passed on. -/
theorem fetchMap {statement : Statement} (passes : ∀ failure, h [] statement failure = some failure)
    (g : ResultSet → α) : Surfaces heeds h (g <$> Run.fetch statement) := by
  have raising : ∀ w s, (g <$> Run.fetch statement).perform w s =
      (rescue (g <$> Run.fetch statement) Run.fail).perform w s := by
    intro w s
    rw [perform_rescue]
    rcases (g <$> Run.fetch statement).perform w s with ⟨(failure | -) | a, s'⟩ <;> rfl
  refine .congr raising (.handled (fun failure reported => .inl ?_) fun _ => rfl)
  exact ⟨failure, passes failure, reported, rfl⟩

theorem fetch {statement : Statement} (passes : ∀ failure, h [] statement failure = some failure) :
    Surfaces heeds h (Run.fetch statement) := by
  have whole : Surfaces heeds h (id <$> Run.fetch statement) := fetchMap passes id
  rwa [id_map] at whole

theorem rows {statement : Statement} (passes : ∀ failure, h [] statement failure = some failure) :
    Surfaces heeds h (Run.rows statement) := by
  have whole : Surfaces heeds h (ResultSet.rows <$> Run.fetch statement) :=
    fetchMap passes ResultSet.rows
  rwa [← bind_pure_comp] at whole

theorem execute {sql : String} (passes : ∀ failure, h [] (.plain sql) failure = some failure) :
    Surfaces heeds h (Run.execute sql) :=
  (fetch passes).andThen fun _ => .pure ()

theorem forM (steady : h.Steady) {items : List α} {f : α → Run PUnit}
    (each : ∀ a, Surfaces heeds h (f a)) : Surfaces heeds h (items.forM f) := by
  induction items with
  | nil => exact (Hushed.pure _).surfaces
  | cons a items ih => exact (each a).bind steady fun _ => ih

end Surfaces

/-! ## Teardowns -/

/-- How statements that remove what a run has created can end. -/
inductive Removal : List Event → Except Stop Unit → Prop
  | removed {new : List Event} (closes : Closing new) : Removal new (.ok ())
  | unsent {new : List Event} {failure : Failure} (closes : Closing new)
      (reported : failure.isReported = true) : Removal new (.error (.failed failure))
  | refused {between new : List Event} {statement : Statement} {reply : Reply}
      {error : DriverError} (closes : Closing new) (teardown : statement.isTeardown = true)
      (refuses : reply.outcome = .refused error) (quiet : Silent between) :
      Removal (between ++ .asked statement reply :: new)
        (.error (.failed (reply.meaning statement error)))

/-- A run that only removes what was created; a statement that is refused is its last one. -/
def Removes (r : Run Unit) : Prop :=
  ∀ w s, ∃ new, Leads s new (r.perform w s).2 ∧ Removal new (r.perform w s).1

/-- What is done because a run has failed does not hide the failure. -/
def Tidies (last : Run Unit) : Prop :=
  ∀ w s, ∃ closing s', last.perform w s = (.ok (), s') ∧ Leads s closing s' ∧ Closing closing

theorem Removal.behind {result : Except Stop Unit} (before : Closing earlier)
    (rest : Removal new result) : Removal (new ++ earlier) result := by
  cases rest with
  | removed closes => exact .removed (before.append closes)
  | unsent closes reported => exact .unsent (before.append closes) reported
  | refused closes teardown refuses quiet =>
    rw [List.append_assoc, List.cons_append]
    exact .refused (before.append closes) teardown refuses quiet

namespace Removes

theorem execute {sql : String} (teardown : (Statement.plain sql).isTeardown = true) :
    Removes (Run.execute sql) := by
  intro w s
  have ends := fetched w s (.plain sql)
  rw [perform_execute]
  generalize (Run.fetch (.plain sql)).perform w s = ended at ends ⊢
  obtain ⟨result, s'⟩ := ended
  simp only at ends
  by_cases up : s.link = .up
  · obtain ⟨quiet, stretch, silent⟩ := ends.sent up
    have leads := Leads.of_passage stretch.toPassage
    cases ends with
    | unsent down => exact absurd up down
    | accepted _ set accepts =>
      exact ⟨_, leads, .removed ((Closing.accepted teardown accepts .done).silent silent)⟩
    | refused _ error refuses =>
      rw [Surfaces.meaning_answered up]
      exact ⟨_, leads, .refused .done teardown refuses silent⟩
  · cases ends with
    | unsent down => exact ⟨[], .rest, .unsent .done (meaning_isReported ..)⟩
    | accepted up' | refused up' => exact absurd up' up

theorem bind {r : Run Unit} {f : Unit → Run Unit} (hr : Removes r) (hf : ∀ a, Removes (f a)) :
    Removes (r >>= f) := by
  intro w s
  obtain ⟨new, leads, removal⟩ := hr w s
  rw [perform_bind]
  rcases ended : r.perform w s with ⟨stop | a, s'⟩ <;> rw [ended] at leads removal
  · refine ⟨new, leads, ?_⟩
    cases removal with
    | unsent closes reported => exact .unsent closes reported
    | refused closes teardown refuses quiet => exact .refused closes teardown refuses quiet
  · cases removal with
    | removed closes =>
      obtain ⟨later, more, rest⟩ := hf a w s'
      exact ⟨later ++ new, leads.trans more, rest.behind closes⟩

/-- What is done without a statement removes nothing, but it does no harm either. -/
theorem quiet {r : Run Unit} (hushed : Hushed false r)
    (returns : ∀ w s, (r.perform w s).1 = .ok ()) : Removes r := by
  intro w s
  obtain ⟨new, leads, silent⟩ := hushed.leads w s
  refine ⟨new, leads, ?_⟩
  rw [returns]
  exact .removed (.of_silent silent)

/-- A warning tells why something could not be removed. -/
theorem tidies {r : Run Unit} (removes : Removes r) (text : String) :
    Tidies (rescue r fun failure =>
      if failure.isReported then Run.log .warning (text ++ failure.message)
      else Run.fail failure) := by
  intro w s
  obtain ⟨new, leads, removal⟩ := removes w s
  rw [perform_rescue]
  rcases ended : r.perform w s with ⟨(failure | -) | a, s'⟩ <;> rw [ended] at leads removal
  · have reported : failure.isReported = true := by
      cases removal with
      | unsent _ reported => exact reported
      | refused => exact meaning_isReported ..
    obtain ⟨signals, logs⟩ := Stretch.note (w := w) (s := s')
      (.logged .warning (text ++ failure.message)) rfl
    refine ⟨_, _, by simp only [reported, if_true, perform_log], leads.trans (.of_passage
      logs.toPassage), ?_⟩
    cases removal with
    | unsent closes => exact closes.silent logs.silent
    | refused closes teardown refuses quiet =>
      rw [List.append_assoc]
      exact (Closing.warned text teardown refuses quiet closes).silent (.arrived signals)
  · cases removal
  · cases removal with
    | removed closes => exact ⟨new, s', rfl, leads, closes⟩

end Removes

namespace Surfaces

/-- The failure that ended a run stays the failure that is seen, whatever becomes of the
teardown. -/
theorem cleanup {last : Run Unit} (hr : Surfaces heeds h r) (tidies : Tidies last) :
    Surfaces heeds h (rescue r fun failure => do last; Run.fail failure) := by
  intro w s
  obtain ⟨new, leads, account⟩ := hr w s
  rw [perform_rescue]
  rcases ended : r.perform w s with ⟨(failure | -) | a, s'⟩ <;> rw [ended] at leads account
  · obtain ⟨closing, s'', tidied, more, closes⟩ := tidies w s'
    simp only
    rw [perform_bind_ok tidied]
    refine ⟨closing ++ new, leads.trans more, ?_⟩
    cases account with
    | failed before raised =>
      rw [← List.append_assoc]
      exact .failed (before.append closes) raised
  · exact ⟨new, leads, account⟩
  · exact ⟨new, leads, account⟩

theorem undriven (hr : Surfaces heeds h r) (w : Surroundings) (s : Session) (error : DriverError) :
    (r.perform w s).1 ≠ .error (.failed (.driver error)) := by
  obtain ⟨new, -, account⟩ := hr w s
  exact account.undriven error

end Surfaces

/-- Every failure of the server that a run ends with is named after a refusal, and no error of the
driver gets out as it is. -/
structure Classifies (heeds : Bool) (h : Handling) (r : Run α) : Prop where
  surfaces : Surfaces heeds h r
  undriven : ∀ w s error, (r.perform w s).1 ≠ .error (.failed (.driver error))

theorem Surfaces.classifies (hr : Surfaces heeds h r) : Classifies heeds h r := ⟨hr, hr.undriven⟩

end Run

end PgVitals
