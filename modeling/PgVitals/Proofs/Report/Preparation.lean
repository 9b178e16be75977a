import PgVitals.Proofs.Session.Objects
import PgVitals.Report.Live
/-!
# Preparing a report

Up to its teardown a report drops nothing, and the one flag that says whose the schema is tells the
truth: it is set exactly when the run has created the schema. Every helper object and every section
is about something else than the schema itself.

* `Spares` are statements that neither create the schema nor drop it. `spares_helperObjects` and
  `spares_fragments` go through the catalog, and the lemmas named `asks_` through the functions of a
  report.
* `ClaimEnds` lists how the schema can be claimed, or not. Only `CREATE SCHEMA` is asked for, and a
  refusal because there is one already has an explanation of its own, `claimFailure`.
* `Prepared` is what is known when a report comes to its teardown, and `prepared` says that it is
  known whatever has happened. It is assembled from `Prepared.before`, `ClaimEnds.prepared` and
  `claimed_prepared`.

Whether the schema was created is read off the answer to one statement. An answer of success that
comes with the loss of the connection counts as a creation: then the run holds a schema that it
cannot drop any more.
-/

namespace PgVitals.Report

open PgVitals.Catalog

variable {w : Surroundings} {s s' : Session} {new later : List Event}

/-! ## Statements about the schema -/

/-- The schema of a report, on the server. -/
def ownSchema : ServerObject := ⟨Report.createSchema, Report.dropSchema⟩

/-- A statement that neither creates the schema nor drops it. -/
def Spares (statement : Statement) : Prop :=
  statement.sql ≠ Report.createSchema ∧ statement.sql ≠ Report.dropSchema

/-- No helper object and no section is about the schema itself. -/
theorem spares_helperObjects {sql : String} (h : sql ∈ Report.helperObjects) :
    Spares (.plain sql) := by
  have all : ∀ sql ∈ Report.helperObjects,
      sql ≠ Report.createSchema ∧ sql ≠ Report.dropSchema := by
    decide +kernel
  exact all sql h

theorem spares_fragments {s : Report.Section} (h : s ∈ Report.sections) {f : Fragment}
    (hf : f ∈ s.fragments) : Spares (.plain f.sql) := by
  have all : ∀ s ∈ Report.sections, ∀ f ∈ s.fragments,
      f.sql ≠ Report.createSchema ∧ f.sql ≠ Report.dropSchema := by
    decide +kernel
  exact all s h f hf

theorem spares_extensions {name : String} (h : name ∈ Report.extensions) :
    Spares (.plain (Report.createExtension name)) := by
  have all : ∀ name ∈ Report.extensions,
      Report.createExtension name ≠ Report.createSchema ∧
        Report.createExtension name ≠ Report.dropSchema := by
    decide
  exact all name h

/-! ## Everything but the schema -/

theorem asks_installExtension {name : String} (h : name ∈ Report.extensions) :
    Run.Asks Spares (installExtension name) := by
  have create : Report.extensionStateQuery ≠ Report.createSchema := by decide
  have drop : Report.extensionStateQuery ≠ Report.dropSchema := by decide
  unfold installExtension
  refine (Run.Asks.rows ⟨create, drop⟩).bind fun rows => ?_
  split
  · exact (Run.Asks.log _ _).bind fun _ => .pure _
  · refine (Run.Asks.firstCell _).bind fun installed => ?_
    split
    · exact (Run.Asks.execute (spares_extensions h)).bind fun _ =>
        (Run.Asks.log _ _).bind fun _ => .pure _
    · exact .pure _

theorem asks_provideExtension {name : String} (h : name ∈ Report.extensions) :
    Run.Asks Spares (provideExtension name) := by
  unfold provideExtension
  refine (asks_installExtension h).bind fun installed => ?_
  split
  · exact .hold (fun _ => rfl) fun _ => rfl
  · exact .pure _

theorem asks_fetchRelease : Run.Asks Spares Run.fetchRelease :=
  .fetchRelease ⟨by decide, by decide⟩

/-- Printing sends nothing. -/
theorem asks_printParagraph {A : Statement → Prop} (text : String) :
    Run.Asks A (printParagraph text) :=
  (Run.Asks.printLine _).bind fun _ => .printLine _

theorem asks_fetchSection (release : Release) {entry : Report.Section}
    (h : entry ∈ Report.sections) : Run.Asks Spares (fetchSection release entry) := by
  unfold fetchSection
  split
  · rename_i sql found
    obtain ⟨f, applies, rfl⟩ := Option.map_eq_some_iff.mp found
    exact .fetch (spares_fragments h (List.mem_of_find?_eq_some applies))
  · exact .ofFault _

theorem asks_valueText {A : Statement → Prop} (set : ResultSet) :
    Run.Asks A (valueText set) := by
  unfold valueText
  split
  · exact .pure _
  · exact (Run.Asks.firstCell _).bind fun _ => .ofFault _

theorem asks_printSection (request : Request) (release : Release) {entry : Report.Section}
    (h : entry ∈ Report.sections) : Run.Asks Spares (printSection request release entry) := by
  unfold printSection
  refine Run.Asks.get.bind fun s => ?_
  split
  · exact asks_printParagraph _
  · split
    · exact asks_printParagraph _
    · exact (asks_fetchSection release h).bind fun set =>
        (asks_valueText set).bind fun _ => asks_printParagraph _
    · exact (asks_fetchSection release h).bind fun set =>
        (Run.Asks.ofFault _).bind fun _ => .printLine _

theorem asks_printSections (request : Request) (release : Release) (plan : List Report.Section)
    (h : ∀ entry ∈ plan, entry ∈ Report.sections) :
    Run.Asks Spares (printSections request release plan) := by
  induction plan with
  | nil => exact .pure _
  | cons first rest ih =>
    unfold printSections
    refine Run.Asks.shutdownWanted.bind fun wanted => ?_
    have next := (asks_printSection request release (h first List.mem_cons_self)).bind fun _ =>
      ih fun entry hs => h entry (List.mem_cons_of_mem _ hs)
    split
    · exact (Run.Asks.fail _).bind fun _ => next
    · exact next

/-- What a report does once the schema is there. -/
def furnish (request : Request) (release : Release) : Run Unit := do
  Run.execute Report.setSearchPath
  Report.extensions.forM provideExtension
  Report.helperObjects.forM Run.execute
  let excluded ← Run.ofFault request.excluded.members
  printSections request release (Report.plan release excluded Report.sections)

theorem build_eq (request : Request) (release : Release) :
    build request release = claimSchema >>= fun _ => furnish request release := by
  simp only [build, setup, furnish, bind_assoc]

theorem asks_furnish (request : Request) (release : Release) :
    Run.Asks Spares (furnish request release) := by
  unfold furnish
  refine (Run.Asks.execute ⟨by decide, by decide⟩).bind fun _ =>
    (Run.Asks.forM fun name h => asks_provideExtension h).bind fun _ =>
      (Run.Asks.forM fun sql h => .execute (spares_helperObjects h)).bind fun _ =>
        (Run.Asks.ofFault _).bind fun excluded => asks_printSections _ _ _ fun entry h => ?_
  exact (List.mem_filter.mp h).1

/-! ## Claiming the schema -/

/-- What the failure of `CREATE SCHEMA` means: that there is one already has an explanation of its
own. -/
def claimFailure : Failure → Failure
  | .query message sql (some code) =>
    if code = duplicateSchema then .config .schemaExists else .query message sql (some code)
  | failure => failure

/-- The ways the schema can be claimed, or not. -/
inductive ClaimEnds (w : Surroundings) (s : Session) : Except Stop Unit → Session → Prop
  | claimed (up : s.link = .up)
      (accepts : (w.reply s.past (.plain Report.createSchema)).accepts = true) :
      ClaimEnds w s (.ok ())
        { s.answered w (.plain Report.createSchema) with
          holdings := { (s.answered w (.plain Report.createSchema)).holdings with schema := true } }
  | unsent (down : s.link ≠ .up) :
      ClaimEnds w s (.error (.failed
        (claimFailure (Run.meaning Report.createSchema connectionClosed s.link)))) s
  | refused (up : s.link = .up) (error : DriverError)
      (refuses : (w.reply s.past (.plain Report.createSchema)).outcome = .refused error)
      {new : List Event} {s' : Session}
      (logs : Quiet w (s.answered w (.plain Report.createSchema)) new s') :
      ClaimEnds w s (.error (.failed (claimFailure
        (Run.meaning Report.createSchema error
          (s.answered w (.plain Report.createSchema)).link)))) s'

theorem perform_claimSchema :
    claimSchema.perform w s =
      match (Run.fetch (.plain Report.createSchema)).perform w s with
      | (.ok _, s') => (.ok (), { s' with holdings := { s'.holdings with schema := true } })
      | (.error (.failed failure), s') => (.error (.failed (claimFailure failure)), s')
      | (.error .unfinished, s') => (.error .unfinished, s') := by
  rw [claimSchema, Run.perform_bind, Run.perform_rescue, Run.perform_execute]
  rcases (Run.fetch (.plain Report.createSchema)).perform w s with ⟨(failure | _) | set, s'⟩
  · cases failure with
    | query message sql code =>
      cases code with
      | none => rfl
      | some code =>
        by_cases there : code = duplicateSchema <;> simp [Except.map, claimFailure, there]
    | _ => rfl
  · rfl
  · rfl

theorem claim_ends (w : Surroundings) (s : Session) :
    ClaimEnds w s (claimSchema.perform w s).1 (claimSchema.perform w s).2 := by
  have ends := Run.fetched w s (.plain Report.createSchema)
  rw [perform_claimSchema]
  generalize (Run.fetch (.plain Report.createSchema)).perform w s = p at ends ⊢
  obtain ⟨result, s₁⟩ := p
  simp only at ends
  cases ends with
  | unsent down => exact .unsent down
  | accepted up set accepts => exact .claimed up accepts
  | refused up error refuses logs => exact .refused up error refuses logs

namespace ClaimEnds

variable {result : Except Stop Unit}

/-- Over an open connection the schema is asked for, and nothing else. -/
theorem sent (h : ClaimEnds w s result s') (up : s.link = .up) :
    ∃ quiet, Passage w (· = .plain Report.createSchema) s
        (quiet ++ [.asked (.plain Report.createSchema)
          (w.reply s.past (.plain Report.createSchema))]) s' ∧
      Silent quiet := by
  obtain ⟨due, ha⟩ := Stretch.answered (w := w) (s := s) (.plain Report.createSchema)
  cases h with
  | unsent down => exact absurd up down
  | claimed =>
    exact ⟨_, ha.toPassage.trans (.held fun h => { h with schema := true }),
      .arrived _⟩
  | @refused _ error _ new _ logs =>
    have h := ha.toPassage.trans logs.widen.toPassage
    rw [← List.append_assoc] at h
    exact ⟨_, h, logs.silent.append (.arrived _)⟩

/-- A run that did not hold the schema holds it afterwards exactly when the server has created
it. -/
theorem held (h : ClaimEnds w s result s') (up : s.link = .up) (fresh : s.holdings.schema = false) :
    s'.holdings.schema = true ↔
      (w.reply s.past (.plain Report.createSchema)).accepts = true := by
  obtain ⟨due, ha⟩ := Stretch.answered (w := w) (s := s) (.plain Report.createSchema)
  cases h with
  | unsent down => exact absurd up down
  | claimed _ accepts => exact iff_of_true rfl accepts
  | refused _ error refuses logs =>
    rw [logs.schema, ha.schema, fresh, Reply.accepts_refused refuses]

end ClaimEnds

/-! ## Before the teardown -/

/-- A report up to the point where it drops its schema. -/
def prepare (request : Request) : Run Unit := do
  let release ← Run.fetchRelease
  build request release

/-- What is known when a report comes to the point where it drops its schema. -/
structure Prepared (w : Surroundings) (s : Session) (new : List Event) (result : Except Stop Unit)
    (s' : Session) : Prop where
  passage : Passage w (fun statement => statement.sql ≠ Report.dropSchema) s new s'
  /-- The run holds the schema exactly when it has created it. -/
  owned : s'.holdings.schema = true ↔ ownSchema.CreatedIn new
  ends : result ≠ .error .unfinished
  /-- A refusal because there is such a schema already is explained. -/
  duplicate : ∀ statement reply error, Event.asked statement reply ∈ new →
    statement.sql = Report.createSchema → reply.outcome = .refused error →
    reply.closes = false → error.kind ≠ .cancelled → error.code = some duplicateSchema →
    result = .error (.failed (.config .schemaExists))

theorem not_created (h : Stretch w Spares s new s') : ¬ ownSchema.CreatedIn new := by
  rintro ⟨statement, reply, hm, create, -⟩
  exact (h.asked statement reply hm).1.1 create

/-- As long as the schema is not asked for, the run does not hold it. -/
theorem Prepared.before (fresh : s.holdings.schema = false) (h : Stretch w Spares s new s')
    {result : Except Stop Unit} (ends : result ≠ .error .unfinished) :
    Prepared w s new result s' where
  passage := h.toPassage.mono fun _ spares => spares.2
  owned := by
    rw [h.schema, fresh]
    exact iff_of_false nofun (not_created h)
  ends := ends
  duplicate := fun statement reply _ hm create =>
    absurd create (h.asked statement reply hm).1.1

/-- What comes before the schema is asked for is about something else. -/
theorem Prepared.after (h : Stretch w Spares s new s') {result : Except Stop Unit}
    {s'' : Session} (next : Prepared w s' later result s'') :
    Prepared w s (later ++ new) result s'' where
  passage := (h.toPassage.mono fun _ spares => spares.2).trans next.passage
  owned := by
    rw [next.owned]
    constructor
    · rintro ⟨statement, reply, hm, hs, accepts⟩
      exact ⟨statement, reply, List.mem_append_left _ hm, hs, accepts⟩
    · rintro ⟨statement, reply, hm, hs, accepts⟩
      rcases List.mem_append.mp hm with hm | hm
      · exact ⟨statement, reply, hm, hs, accepts⟩
      · exact absurd hs (h.asked statement reply hm).1.1
  ends := next.ends
  duplicate := by
    intro statement reply error hm hs
    rcases List.mem_append.mp hm with hm | hm
    · exact next.duplicate statement reply error hm hs
    · exact absurd hs (h.asked statement reply hm).1.1

/-- Among statements that are not about the schema, the one that creates it is the only one to do
so. -/
theorem sole_creation {statement : Statement} {reply answer : Reply}
    (others : ∀ st r, Event.asked st r ∈ later → st.sql ≠ Report.createSchema)
    (hm : Event.asked statement reply ∈ later ++ [.asked (.plain Report.createSchema) answer])
    (hs : statement.sql = Report.createSchema) : reply = answer := by
  rcases List.mem_append.mp hm with hm | hm
  · exact absurd hs (others statement reply hm)
  · cases List.mem_singleton.mp hm
    rfl

theorem created_iff {answer : Reply}
    (others : ∀ st r, Event.asked st r ∈ later → st.sql ≠ Report.createSchema) :
    ownSchema.CreatedIn (later ++ [.asked (.plain Report.createSchema) answer]) ↔
      answer.accepts = true := by
  constructor
  · rintro ⟨statement, reply, hm, hs, accepts⟩
    rw [← sole_creation others hm hs]
    exact accepts
  · intro accepts
    exact ⟨_, _, List.mem_append_right _ List.mem_cons_self, rfl, accepts⟩

theorem claimFailure_duplicate {error : DriverError} (kind : error.kind ≠ .cancelled)
    (code : error.code = some duplicateSchema) :
    claimFailure (Run.meaning Report.createSchema error .up) = .config .schemaExists := by
  simp [Run.meaning, kind, code, claimFailure]

/-- A schema that is not granted is not held, and the report ends there. -/
theorem ClaimEnds.prepared {stop : Stop} (fresh : s.holdings.schema = false)
    (claim : ClaimEnds w s (.error stop) s') : ∃ new, Prepared w s new (.error stop) s' := by
  by_cases up : s.link = .up
  · obtain ⟨quiet, passage, silent⟩ := claim.sent up
    have held := claim.held up fresh
    have others : ∀ st r, Event.asked st r ∈ quiet → st.sql ≠ Report.createSchema :=
      fun st r hm => absurd hm (silent.not_asked st r)
    cases claim with
    | unsent down => exact absurd up down
    | refused _ error refuses logs =>
      refine ⟨_, passage.mono ?_, held.trans (created_iff others).symm, nofun, ?_⟩
      · intro statement same
        rw [same]
        decide
      · intro statement reply error' hm hs ho opens kind code
        cases sole_creation others hm hs
        cases refuses.symm.trans ho
        rw [(Session.up_answered_iff _).mpr ⟨up, opens⟩, claimFailure_duplicate kind code]
  · cases claim with
    | unsent => exact ⟨[], .before fresh .rest nofun⟩
    | refused up' => exact absurd up' up

/-- A schema that is granted is held, and everything else that is created goes into it. -/
theorem claimed_prepared (up : s.link = .up) (fresh : s.holdings.schema = false)
    (claim : ClaimEnds w s (.ok ()) s') (request : Request) (release : Release) :
    ∃ new, Prepared w s new ((furnish request release).perform w s').1
      ((furnish request release).perform w s').2 := by
  obtain ⟨quiet, passage, silent⟩ := claim.sent up
  obtain ⟨rest, furnished⟩ := (asks_furnish request release).stretch w s'
  have others : ∀ st r, Event.asked st r ∈ rest ++ quiet → st.sql ≠ Report.createSchema := by
    intro st r hm
    rcases List.mem_append.mp hm with hm | hm
    · exact (furnished.asked st r hm).1.1
    · exact absurd hm (silent.not_asked st r)
  have whole := (passage.mono (B := fun statement => statement.sql ≠ Report.dropSchema) (by
      intro statement same
      rw [same]
      decide)).trans (furnished.toPassage.mono fun _ spares => spares.2)
  rw [← List.append_assoc] at whole
  refine ⟨_, whole, ?_, (asks_furnish request release).ends w s', ?_⟩
  · rw [furnished.schema, claim.held up fresh, created_iff others]
  · intro statement reply error hm hs refuses
    cases sole_creation others hm hs
    cases claim with
    | claimed _ accepts => exact absurd (accepts.symm.trans (Reply.accepts_refused refuses)) nofun

/-- Whatever happens before the teardown, the run knows whether the schema is its own. -/
theorem prepared (fresh : s.holdings.schema = false) (request : Request) :
    ∃ new, Prepared w s new ((prepare request).perform w s).1
      ((prepare request).perform w s).2 := by
  -- Three steps come one after the other: the release, the schema, and all that is put into it.
  have versionEnds := asks_fetchRelease.ends w s
  obtain ⟨earlier, h⟩ := asks_fetchRelease.stretch w s
  rw [prepare, Run.perform_bind]
  rcases hv : Run.fetchRelease.perform w s with ⟨stop | release, s₁⟩ <;> rw [hv] at h versionEnds
  · exact ⟨earlier, .before fresh h (by simpa using versionEnds)⟩
  · have claim := claim_ends w s₁
    have fresh₁ := h.schema.trans fresh
    simp only
    rw [build_eq, Run.perform_bind]
    rcases hc : claimSchema.perform w s₁ with ⟨stop | _, s₂⟩ <;> rw [hc] at claim
    · obtain ⟨new, next⟩ := claim.prepared fresh₁
      exact ⟨_, .after h next⟩
    · -- A schema is not granted over a closed connection.
      have up : s₁.link = .up := by
        cases claim with
        | claimed up => exact up
      obtain ⟨new, next⟩ := claimed_prepared up fresh₁ claim request release
      exact ⟨_, .after h next⟩

end PgVitals.Report
