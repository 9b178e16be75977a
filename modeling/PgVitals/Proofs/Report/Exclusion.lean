import PgVitals.Proofs.Report.Moments
import PgVitals.Proofs.Session.Together
/-!
# Reports that share a server

Reports on one database use a schema of one name. The server creates it for one of them only, and
that one remembers it. So however their statements interleave and whatever the server answers, at
most one report holds the schema, it holds what it has created itself, and it alone drops it.

* `Standing` says whether the schema is on the server and whose it is, and `standing` reads it off
  some turns.
* `Knows` says that the flag of a run tells the truth about it. `Knows.turn` is the step lemma:
  after its turn a run still knows whether the schema is its own, and a turn of another run changes
  nothing about that.
* `Sharing.knows` is the induction over the turns, and `Excluding` what follows for any number of
  reports.

All that is taken of the server is that it creates no schema where there is one, `CreatesOnce`; it
may refuse everything for other reasons. Between its turns a report is at one of its moments, and
those are listed in `Proofs/Report/Moments`. A schema of this name that somebody else has made is
never dropped either, since no report has created it.
-/

namespace PgVitals.Report

open PgVitals.Catalog

variable {ι : Type}

/-! ## The schema of all reports -/

/-- Whether there is a schema on the server that several reports share, and where it is from. -/
inductive Standing (ι : Type) where
  | absent
  /-- It was there before the first turn. -/
  | found
  | made (run : ι)
deriving DecidableEq

/-- The schema after some turns, newest first. -/
def standing (there : Bool) : List (Turn ι) → Standing ι
  | [] => if there then .found else .absent
  | turn :: earlier =>
    if turn.reply.accepts && turn.statement.sql == Report.createSchema then .made turn.run
    else if turn.reply.accepts && turn.statement.sql == Report.dropSchema then .absent
    else standing there earlier

/-- What the server keeps to: it creates no schema where there is one. It may refuse every statement
for other reasons. -/
def CreatesOnce (there : Bool) (log : List (Turn ι)) (statement : Statement) (reply : Reply) :
    Prop :=
  reply.accepts = true → statement.sql = Report.createSchema → standing there log = .absent

section

variable {there : Bool} {log : List (Turn ι)} {i : ι} {statement : Statement} {reply : Reply}

theorem standing_created (accepts : reply.accepts = true)
    (creates : statement.sql = Report.createSchema) :
    standing there (⟨i, statement, reply⟩ :: log) = .made i := by
  simp [standing, accepts, creates]

theorem standing_dropped (accepts : reply.accepts = true)
    (drops : statement.sql = Report.dropSchema) :
    standing there (⟨i, statement, reply⟩ :: log) = .absent := by
  have other : Report.dropSchema ≠ Report.createSchema := by decide
  simp [standing, accepts, drops, other]

/-- Refused statements and those about other things change nothing. -/
theorem standing_other (h : reply.accepts = true → Spares statement) :
    standing there (⟨i, statement, reply⟩ :: log) = standing there log := by
  cases accepts : reply.accepts with
  | false => simp [standing, accepts]
  | true => simp [standing, (h accepts).1, (h accepts).2]

end

/-- A turn of one run makes the schema no other's, nor takes it from another. -/
theorem standing_others {there : Bool} {log : List (Turn ι)} {i j : ι} {statement : Statement}
    {reply : Reply} (lawful : CreatesOnce there log statement reply)
    (own : statement.sql = Report.dropSchema → standing there log = .made i) (ne : j ≠ i) :
    standing there (⟨i, statement, reply⟩ :: log) = .made j ↔ standing there log = .made j := by
  have apart : Standing.made i ≠ .made j := fun same => ne (Standing.made.inj same).symm
  by_cases creates : reply.accepts = true ∧ statement.sql = Report.createSchema
  · rw [standing_created creates.1 creates.2, lawful creates.1 creates.2]
    exact iff_of_false apart (by simp)
  by_cases drops : reply.accepts = true ∧ statement.sql = Report.dropSchema
  · rw [standing_dropped drops.1 drops.2, own drops.2]
    exact iff_of_false (by simp) apart
  · rw [standing_other fun accepts =>
      ⟨fun same => creates ⟨accepts, same⟩, fun same => drops ⟨accepts, same⟩⟩]

/-! ## One turn -/

/-- Where a run is that has some moments before it: at the first of them, or at its end. -/
def sessionAt : List Moment → Session → Session
  | [], final => final
  | m :: _, _ => m.session

/-- A run that comes to `final` has the moments `left` before it, and its flag tells whether the
schema is its own. -/
def Knows (w : Surroundings) (final : Session) (left : List Moment) (own : Prop) : Prop :=
  ∃ s, Goes w s left final ∧ (s.holdings.schema = true ↔ own)

namespace Knows

variable {w : Surroundings} {final : Session} {left : List Moment} {m : Moment} {own : Prop}

theorem sessionAt (h : Knows w final left own) :
    (sessionAt left final).holdings.schema = true ↔ own := by
  obtain ⟨s, goes, knows⟩ := h
  rw [← knows]
  cases goes with
  | still still => exact Bool.eq_iff_iff.mp still.schema
  | ask still => exact Bool.eq_iff_iff.mp still.schema

/-- A run drops only what is its own. -/
theorem drops (h : Knows w final (m :: left) own) (drops : m.statement.sql = Report.dropSchema) :
    own := by
  have here := h.sessionAt
  obtain ⟨s, goes, -⟩ := h
  cases goes with
  | ask _ mine => exact here.mp (mine drops)

/-- After its turn a run still knows whether the schema is its own. -/
theorem turn {there : Bool} {log : List (Turn ι)} {i : ι}
    (h : Knows w final (m :: left) (standing there log = .made i)) :
    Knows w final left
      (standing there (⟨i, (m.exchange w).1, (m.exchange w).2⟩ :: log) = .made i) := by
  have here := h.sessionAt
  obtain ⟨s, goes, -⟩ := h
  cases goes with
  | @ask _ s₁ _ _ _ still _ past schema next =>
    refine ⟨s₁, next, ?_⟩
    rw [schema]
    by_cases creates : (m.exchange w).2.accepts = true ∧ (m.exchange w).1.sql = Report.createSchema
    · rw [standing_created creates.1 creates.2, heldAfter_created creates.1 creates.2]
      exact iff_of_true rfl rfl
    by_cases drops : (m.exchange w).2.accepts = true ∧ (m.exchange w).1.sql = Report.dropSchema
    · rw [standing_dropped drops.1 drops.2, heldAfter_dropped drops.1 drops.2]
      exact iff_of_false Bool.false_ne_true (by simp)
    · have spares : (m.exchange w).2.accepts = true → Spares (m.exchange w).1 := fun accepts =>
        ⟨fun same => creates ⟨accepts, same⟩, fun same => drops ⟨accepts, same⟩⟩
      rw [standing_other spares, heldAfter_other spares]
      exact here

end Knows

/-! ## All turns -/

section

variable [DecidableEq ι] {request : ι → Request} {w : ι → Surroundings} {s : ι → Session}
  {there : Bool} {log : List (Turn ι)} {left : ι → List Moment}

/-- Where several reports can come to that share a server. -/
abbrev Sharing (request : ι → Request) (w : ι → Surroundings) (s : ι → Session) (there : Bool) :
    List (Turn ι) → (ι → List Moment) → Prop :=
  Reached (CreatesOnce there) (fun i => Moment.exchange (w i)) fun i =>
    (account (request i)).moments (w i) (s i)

/-- Wherever the runs are, each of them knows whether the schema is its own. -/
theorem Sharing.knows (fresh : ∀ i, (s i).holdings.schema = false)
    (h : Sharing request w s there log left) (i : ι) :
    Knows (w i) ((run (request i)).perform (w i) (s i)).2 (left i)
      (standing there log = .made i) := by
  induction h generalizing i with
  | start =>
    refine ⟨s i, (account (request i)).goes (w i) (s i), iff_of_false ?_ ?_⟩
    · simp [fresh]
    · cases there <;> simp [standing]
  | @turn log left j m rest before next lawful ih =>
    have mine := next ▸ ih j
    by_cases same : i = j
    · subst same
      rw [Function.update_self]
      exact mine.turn
    · rw [Function.update_of_ne same]
      obtain ⟨s', goes, knows⟩ := ih i
      exact ⟨s', goes, knows.trans (standing_others lawful mine.drops same).symm⟩

/-- How several reports stand that share a server, after the turns in `log` and with the moments
`left` before them. -/
structure Excluding (request : ι → Request) (w : ι → Surroundings) (s : ι → Session) (there : Bool)
    (log : List (Turn ι)) (left : ι → List Moment) : Prop where
  /-- What the runs have asked and what they have before them is what they ask by themselves. -/
  whole : ∀ i, (s i).exchanges ++ exchangesBy i log ++ (left i).map (Moment.exchange (w i)) =
    ((run (request i)).perform (w i) (s i)).2.exchanges
  /-- A run holds the schema exactly when the one on the server is the one it has created. -/
  owns : ∀ i,
    (sessionAt (left i) ((run (request i)).perform (w i) (s i)).2).holdings.schema = true ↔
      standing there log = .made i
  /-- At most one run holds it. -/
  sole : ∀ i j,
    (sessionAt (left i) ((run (request i)).perform (w i) (s i)).2).holdings.schema = true →
    (sessionAt (left j) ((run (request j)).perform (w j) (s j)).2).holdings.schema = true → i = j
  /-- A run that is about to drop the schema holds it. -/
  drops : ∀ i m rest, left i = m :: rest → m.statement.sql = Report.dropSchema →
    m.session.holdings.schema = true
  /-- No run has ever dropped a schema that was there before, or that another run created. -/
  dropped : ∀ later turn earlier, log = later ++ turn :: earlier →
    turn.statement.sql = Report.dropSchema → standing there earlier = .made turn.run

/-- However the statements of several reports interleave and whatever the server answers, at most
one of them holds the schema, and no report drops a schema that it has not created. -/
theorem reports_exclude (request : ι → Request) (w : ι → Surroundings) (s : ι → Session)
    (there : Bool) (log : List (Turn ι)) (left : ι → List Moment)
    (fresh : ∀ i, (s i).holdings.schema = false) (h : Sharing request w s there log left) :
    Excluding request w s there log left where
  whole i := by
    rw [((account (request i)).goes (w i) (s i)).exchanges, List.append_assoc, h.whole i]
  owns i := (Sharing.knows fresh h i).sessionAt
  sole i j hi hj := by
    have mine := (Sharing.knows fresh h i).sessionAt.mp hi
    have other := (Sharing.knows fresh h j).sessionAt.mp hj
    exact Standing.made.inj (mine.symm.trans other)
  drops i m rest next drops := by
    have knows := Sharing.knows fresh h i
    rw [next] at knows
    exact knows.sessionAt.mpr (knows.drops drops)
  dropped later turn earlier split drops := by
    obtain ⟨left, m, rest, before, next, exchange, -⟩ := h.before split
    have knows := Sharing.knows fresh before turn.run
    rw [next] at knows
    exact knows.drops ((congrArg (·.1.sql) exchange).trans drops)

end

/-- A server without the schema of a report, that does what it is told. -/
def vacant : Surroundings where
  reply _ _ := { outcome := .result ⟨["version"], [[.text "PostgreSQL 16.4"]]⟩ }

/-- Two reports at once, of which the first creates the schema and the second is refused. -/
theorem reports_exclude_twoAtOnce :
    (∀ _ : Bool, ({} : Session).holdings.schema = false) ∧
      ∃ log left, log.length = 4 ∧
        Sharing (fun _ => ⟨"shop", .list []⟩) (fun late : Bool => if late then occupied else vacant)
          (fun _ => {}) false log left ∧
        Excluding (fun _ => ⟨"shop", .list []⟩)
          (fun late : Bool => if late then occupied else vacant) (fun _ => {}) false log left := by
  have fresh : ∀ _ : Bool, ({} : Session).holdings.schema = false := fun _ => rfl
  let w := fun late : Bool => if late then occupied else vacant
  have version : "SELECT version()" ≠ Report.createSchema := by decide
  have none : Sharing (fun _ => ⟨"shop", .list []⟩) w (fun _ => {}) false [] _ := .start
  have one := Reached.turn (i := false) none rfl fun _ _ => rfl
  have two := Reached.turn (i := false) one rfl fun _ _ => rfl
  have three := Reached.turn (i := true) two rfl fun _ same => absurd same version
  have four := Reached.turn (i := true) three rfl fun accepts => absurd accepts Bool.false_ne_true
  exact ⟨fresh, _, _, rfl, four,
    reports_exclude (fun _ => ⟨"shop", .list []⟩) w (fun _ => {}) false _ _ fresh four⟩

end PgVitals.Report
