import PgVitals.Proofs.Report.Ownership
/-!
# The moments of a report

A report that shares its server with others waits for its turn whenever it sends a statement. An
account of a run lists these moments: the session in which the run sends a statement, and the
statement. It is built up the way the run is, and so it says of each moment what the run holds
there. What is asked of an account is that the flag of the run follows its exchanges: it is set when
the schema is created and cleared when it is dropped, and nothing is dropped where it is not set.

* `Moment` is such a moment, and `Goes` says that a run sends statements at some moments, one after
  the other, and nowhere else. `Goes.exchanges` reads off what is sent.
* `Account` is an account of a run, for whatever surroundings. `Account.bind`, `Account.rescue` and
  `Account.forM` put accounts together, and `Account.fetch` is that of a statement about something
  else than the schema.
* `claimAccount` and `teardownAccount` are the two where the flag changes. `account` is that of a
  whole report.

Accounts are data and not only propositions, since a moment is a session that the proofs about
several runs have to talk about. The same run has one account; that it lists every statement is part
of what an account is.
-/

namespace PgVitals.Report

open PgVitals.Catalog

variable {w : Surroundings} {s s' s'' : Session}

/-! ## Moments -/

/-- A moment at which a run sends a statement. -/
structure Moment where
  session : Session
  statement : Statement

/-- What is exchanged at a moment. -/
def Moment.exchange (w : Surroundings) (m : Moment) : Statement × Reply :=
  (m.statement, w.reply m.session.past m.statement)

/-- Whether a run holds the schema after an exchange. -/
def heldAfter (held : Bool) (exchange : Statement × Reply) : Bool :=
  if exchange.2.accepts && exchange.1.sql == Report.createSchema then true
  else if exchange.2.accepts && exchange.1.sql == Report.dropSchema then false
  else held

/-- From one session to another no statement is sent, and the run holds what it held. -/
structure Still (s s' : Session) : Prop where
  past : ∃ new, s'.past = new ++ s.past ∧ Silent new
  schema : s'.holdings.schema = s.holdings.schema

/-- A run sends statements at some moments, one after the other, and nowhere else. -/
inductive Goes (w : Surroundings) : Session → List Moment → Session → Prop
  | still {s s' : Session} (still : Still s s') : Goes w s [] s'
  | ask {s s₁ s' : Session} {m : Moment} {later : List Moment}
      (still : Still s m.session)
      -- Only its own schema is dropped.
      (own : m.statement.sql = Report.dropSchema → m.session.holdings.schema = true)
      (past : ∃ new, s₁.past = new ++ .asked m.statement (m.exchange w).2 :: m.session.past ∧
        Silent new)
      (schema : s₁.holdings.schema = heldAfter m.session.holdings.schema (m.exchange w))
      (rest : Goes w s₁ later s') : Goes w s (m :: later) s'

theorem Still.rest : Still s s := ⟨⟨[], rfl, nofun⟩, rfl⟩

theorem Still.trans (h₁ : Still s s') (h₂ : Still s' s'') : Still s s'' := by
  obtain ⟨earlier, he, silent⟩ := h₁.past
  obtain ⟨later, hl, silent'⟩ := h₂.past
  exact ⟨⟨later ++ earlier, by rw [hl, he, List.append_assoc], silent'.append silent⟩,
    h₂.schema.trans h₁.schema⟩

theorem Still.of_quiet {new : List Event} (h : Quiet w s new s') : Still s s' :=
  ⟨⟨new, h.past, h.silent⟩, h.schema⟩

namespace Goes

variable {moments later : List Moment}

theorem after (h : Still s s') (g : Goes w s' moments s'') : Goes w s moments s'' := by
  cases g with
  | still still => exact .still (h.trans still)
  | ask still own past schema rest => exact .ask (h.trans still) own past schema rest

theorem append (h : Goes w s moments s') (g : Goes w s' later s'') :
    Goes w s (moments ++ later) s'' := by
  induction h with
  | still still => exact g.after still
  | ask still own past schema _ ih => exact .ask still own past schema (ih g)

/-- A statement that is sent at once, and what comes of it. -/
theorem one {statement : Statement} {quiet : List Event}
    (own : statement.sql = Report.dropSchema → s.holdings.schema = true)
    (past : s'.past = quiet ++ .asked statement (w.reply s.past statement) :: s.past)
    (silent : Silent quiet)
    (schema : s'.holdings.schema =
      heldAfter s.holdings.schema (statement, w.reply s.past statement)) :
    Goes w s [⟨s, statement⟩] s' :=
  .ask .rest own ⟨quiet, past, silent⟩ schema (.still .rest)

/-- At these moments everything is sent that the run sends. -/
theorem exchanges (h : Goes w s moments s') :
    s'.exchanges = s.exchanges ++ moments.map (Moment.exchange w) := by
  have still : ∀ {s s' : Session}, Still s s' → s'.exchanges = s.exchanges := by
    rintro s s' ⟨⟨new, past, silent⟩, -⟩
    rw [Session.exchanges, past, exchangesOf_append, exchangesOf_silent silent, List.append_nil]
    rfl
  induction h with
  | still h => rw [still h, List.map_nil, List.append_nil]
  | @ask s s₁ s' m rest h _ past _ _ ih =>
    obtain ⟨new, past, silent⟩ := past
    rw [ih, Session.exchanges, past, exchangesOf_append, exchangesOf_silent silent,
      List.append_nil, ← List.singleton_append, exchangesOf_append, ← Session.exchanges, still h]
    simp [exchangesOf, Event.exchange?, Moment.exchange]

end Goes

section

variable {exchange : Statement × Reply} {held : Bool}

theorem heldAfter_created (accepts : exchange.2.accepts = true)
    (creates : exchange.1.sql = Report.createSchema) : heldAfter held exchange = true := by
  simp [heldAfter, accepts, creates]

theorem heldAfter_dropped (accepts : exchange.2.accepts = true)
    (drops : exchange.1.sql = Report.dropSchema) : heldAfter held exchange = false := by
  have other : Report.dropSchema ≠ Report.createSchema := by decide
  simp [heldAfter, accepts, drops, other]

/-- Refused statements and those about other things change nothing. -/
theorem heldAfter_other (h : exchange.2.accepts = true → Spares exchange.1) :
    heldAfter held exchange = held := by
  cases accepts : exchange.2.accepts with
  | false => simp [heldAfter, accepts]
  | true => simp [heldAfter, (h accepts).1, (h accepts).2]

theorem heldAfter_refused (refused : exchange.2.accepts = false) :
    heldAfter held exchange = held :=
  heldAfter_other fun accepts => absurd (refused.symm.trans accepts) Bool.false_ne_true

end

/-! ## Accounts -/

/-- An account of a run: the moments at which it sends its statements. -/
structure Account {α : Type} (r : Run α) where
  moments : Surroundings → Session → List Moment
  goes : ∀ w s, Goes w s (moments w s) (r.perform w s).2

namespace Account

variable {α β : Type} {r : Run α}

/-- A run that sends nothing. -/
def silent (h : Run.Asks (fun _ => False) r) : Account r where
  moments _ _ := []
  goes w s := by
    obtain ⟨new, hn⟩ := h.stretch w s
    exact .still (.of_quiet hn)

def bind {f : α → Run β} (first : Account r) (next : ∀ a, Account (f a)) :
    Account (r >>= f) where
  moments w s :=
    first.moments w s ++
      match r.perform w s with
      | (.ok a, s') => (next a).moments w s'
      | (.error _, _) => []
  goes w s := by
    have g := first.goes w s
    rw [Run.perform_bind]
    rcases h : r.perform w s with ⟨stop | a, s'⟩ <;> rw [h] at g
    · exact g.append (.still .rest)
    · exact g.append ((next a).goes w s')

def rescue {handle : Failure → Run α} (first : Account r) (next : ∀ f, Account (handle f)) :
    Account (Run.rescue r handle) where
  moments w s :=
    first.moments w s ++
      match r.perform w s with
      | (.error (.failed failure), s') => (next failure).moments w s'
      | _ => []
  goes w s := by
    have g := first.goes w s
    rw [Run.perform_rescue]
    rcases h : r.perform w s with ⟨(failure | -) | a, s'⟩ <;> rw [h] at g
    · exact g.append ((next failure).goes w s')
    · exact g.append (.still .rest)
    · exact g.append (.still .rest)

def ite {c : Prop} [Decidable c] {r' : Run α} (yes : Account r) (no : Account r') :
    Account (if c then r else r') where
  moments w s := if c then yes.moments w s else no.moments w s
  goes w s := by
    split
    · exact yes.goes w s
    · exact no.goes w s

/-- A statement about something else than the schema. -/
def fetch {statement : Statement} (h : Spares statement) : Account (Run.fetch statement) where
  moments _ s := if s.link = .up then [⟨s, statement⟩] else []
  goes w s := by
    have ends := Run.fetched w s statement
    split
    · rename_i up
      obtain ⟨quiet, stretch, silent⟩ := ends.sent up
      refine .one (fun drops => absurd drops h.2) ?_ silent ?_
      · rw [stretch.past, List.append_assoc]
        rfl
      · rw [stretch.schema, heldAfter_other fun _ => h]
    · rename_i down
      rw [(ends.down down).1]
      exact .still .rest

def pure (a : α) : Account (Pure.pure a : Run α) := silent (.pure a)

def rows {statement : Statement} (h : Spares statement) : Account (Run.rows statement) :=
  (fetch h).bind fun set => pure set.rows

def execute {sql : String} (h : Spares (.plain sql)) : Account (Run.execute sql) :=
  (fetch h).bind fun _ => pure ()

def forM {f : α → Run PUnit} :
    (items : List α) → (∀ a ∈ items, Account (f a)) → Account (items.forM f)
  | [], _ => pure PUnit.unit
  | a :: rest, h =>
    (h a List.mem_cons_self).bind fun _ => forM rest fun b hb => h b (List.mem_cons_of_mem a hb)

end Account

/-! ## The account of a report -/

/-- The claim of the schema sets the flag where the server has created it. -/
def claimAccount : Account claimSchema where
  moments _ s := if s.link = .up then [⟨s, .plain Report.createSchema⟩] else []
  goes w s := by
    have claim := claim_ends w s
    split
    · rename_i up
      obtain ⟨quiet, passage, silent⟩ := claim.sent up
      obtain ⟨due, kept⟩ := Stretch.answered (w := w) (s := s) (.plain Report.createSchema)
      have other : Report.createSchema ≠ Report.dropSchema := by decide
      refine .one (fun drops => absurd drops other) ?_ silent ?_
      · rw [passage.past, List.append_assoc]
        rfl
      · generalize claimSchema.perform w s = p at claim
        obtain ⟨result, s'⟩ := p
        simp only at claim ⊢
        cases claim with
        | unsent down => exact absurd up down
        | claimed _ accepts => exact (heldAfter_created accepts rfl).symm
        | refused _ error refuses logs =>
          rw [logs.schema, kept.schema, heldAfter_refused (Reply.accepts_refused refuses)]
    · rename_i down
      generalize claimSchema.perform w s = p at claim
      obtain ⟨result, s'⟩ := p
      simp only at claim ⊢
      cases claim with
      | unsent => exact .still .rest
      | claimed up | refused up => exact absurd up down

/-- The teardown drops the schema where the flag is set, and then clears it. -/
def teardownAccount : Account teardown where
  moments _ s :=
    if s.holdings.schema = true ∧ s.link = .up then [⟨s, .plain Report.dropSchema⟩] else []
  goes w s := by
    have ends := teardown_ends w s
    split
    · rename_i due
      obtain ⟨quiet, past, silent⟩ := ends.sent due.1 due.2
      obtain ⟨signals, kept⟩ := Stretch.answered (w := w) (s := s) (.plain Report.dropSchema)
      refine .one (fun _ => due.1) past silent ?_
      generalize teardown.perform w s = p at ends
      obtain ⟨result, s'⟩ := p
      simp only at ends ⊢
      cases ends with
      | nothing free => exact absurd (free.symm.trans due.1) Bool.false_ne_true
      | unsent down => exact absurd due.2 down
      | refused _ _ error refuses logs =>
        rw [logs.schema, kept.schema, heldAfter_refused (Reply.accepts_refused refuses)]
      | dropped _ _ accepts => exact (heldAfter_dropped accepts rfl).symm
    · rename_i idle
      generalize teardown.perform w s = p at ends
      obtain ⟨result, s'⟩ := p
      simp only at ends ⊢
      cases ends with
      | nothing | unsent => exact .still .rest
      | refused owned up | dropped owned up => exact absurd ⟨owned, up⟩ idle

def fetchReleaseAccount : Account Run.fetchRelease :=
  ((Account.rows ⟨by decide, by decide⟩).rescue fun failure => .silent (by
    split
    · exact .fail _
    · exact .fail _)).bind fun rows =>
      .silent (by
        split
        · exact .fail _
        · exact (Run.Asks.firstCell rows).bind fun _ => (Run.Asks.ofExcept _).bind fun _ =>
            (Run.Asks.log _ _).bind fun _ => .pure _)

theorem spares_extensionState {params : Params} : Spares ⟨Report.extensionStateQuery, params⟩ := by
  have create : Report.extensionStateQuery ≠ Report.createSchema := by decide
  have drop : Report.extensionStateQuery ≠ Report.dropSchema := by decide
  exact ⟨create, drop⟩

def installAccount {name : String} (h : name ∈ Report.extensions) :
    Account (installExtension name) :=
  (Account.rows spares_extensionState).bind fun
    | [] => .silent ((Run.Asks.log _ _).bind fun _ => .pure _)
    | row :: rest =>
      (Account.silent (.firstCell (row :: rest))).bind fun _ =>
        .ite
          ((Account.execute (spares_extensions h)).bind fun _ =>
            .silent ((Run.Asks.log _ _).bind fun _ => .pure _))
          (.pure true)

def provideAccount {name : String} (h : name ∈ Report.extensions) :
    Account (provideExtension name) :=
  (installAccount h).bind fun _ => .ite (.silent (.hold (fun _ => rfl) fun _ => rfl)) (.pure ())

def setupAccount : Account setup :=
  claimAccount.bind fun _ =>
    (Account.execute ⟨by decide, by decide⟩).bind fun _ =>
      (Account.forM _ fun _ h => provideAccount h).bind fun _ =>
        .forM _ fun _ h => .execute (spares_helperObjects h)

def fetchSectionAccount (release : Release) {entry : Report.Section}
    (h : entry ∈ Report.sections) : Account (fetchSection release entry) where
  moments _ s :=
    match entry.sql? release with
    | some sql => if s.link = .up then [⟨s, .plain sql⟩] else []
    | none => []
  goes w s := by
    unfold fetchSection
    cases found : entry.sql? release with
    | some sql =>
      obtain ⟨f, applies, rfl⟩ := Option.map_eq_some_iff.mp found
      exact (Account.fetch (spares_fragments h (List.mem_of_find?_eq_some applies))).goes w s
    | none => exact (Account.silent (.ofFault _)).goes w s

def printSectionAccount (request : Request) (release : Release) {entry : Report.Section}
    (h : entry ∈ Report.sections) : Account (printSection request release entry) :=
  (Account.silent .get).bind fun s =>
    match missingExtension? s.holdings.extensions entry with
    | some _ => .silent (asks_printParagraph _)
    | none =>
      match entry, h with
      | .heading _, _ => .silent (asks_printParagraph _)
      | .value _ _, h =>
        (fetchSectionAccount release h).bind fun set =>
          .silent ((asks_valueText set).bind fun _ => asks_printParagraph _)
      | .table _ _ _, h =>
        (fetchSectionAccount release h).bind fun _ =>
          .silent ((Run.Asks.ofFault _).bind fun _ => .printLine _)

def printSectionsAccount (request : Request) (release : Release) :
    (plan : List Report.Section) → (∀ entry ∈ plan, entry ∈ Report.sections) →
      Account (printSections request release plan)
  | [], _ => .pure ()
  | first :: rest, h =>
    (Account.silent .shutdownWanted).bind fun _ =>
      have next := (printSectionAccount request release (h first List.mem_cons_self)).bind fun _ =>
        printSectionsAccount request release rest fun entry he =>
          h entry (List.mem_cons_of_mem first he)
      .ite ((Account.silent (.fail _)).bind fun _ => next) next

def buildAccount (request : Request) (release : Release) : Account (build request release) :=
  setupAccount.bind fun _ =>
    (Account.silent (.ofFault _)).bind fun _ =>
      printSectionsAccount request release _ fun _ h => (List.mem_filter.mp h).1

def dropAfterFailureAccount : Account dropAfterFailure :=
  (Account.silent .get).bind fun _ =>
    .ite (teardownAccount.rescue fun _ => .ite (.silent (.log _ _)) (.silent (.fail _))) (.pure ())

/-- The account of a whole report. -/
def account (request : Request) : Account (run request) :=
  fetchReleaseAccount.bind fun release =>
    ((buildAccount request release).rescue fun failure =>
      dropAfterFailureAccount.bind fun _ => .silent (.fail failure)).bind fun _ => teardownAccount

end PgVitals.Report
