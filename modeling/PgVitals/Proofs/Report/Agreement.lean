import PgVitals.Proofs.Report.Course
import PgVitals.Proofs.Session.Obliging
import PgVitals.Proofs.Table.Drawing
/-!
# The script and the run

The script and a run present the same report: the same sections under the same announcements, and
the same statements but for what only one of them needs. Where no statement fails, the run comes to
its end.

* `Serves` is a server of a release on which no statement fails and whose results can be shown. For
  each function of the report there is a lemma, named `returns_` and the function, and `returns_run`
  is the last: there a report comes to its end.
* The script is taken from `Proofs/Report/Lines`, and what a run does that returns from
  `Proofs/Report/Course`. The two are compared by their plans, which are the same by definition, and
  by the statements, of which each side has some for itself.

What the two do not have in common is said by name: `isScriptOnly` for the statements of the script,
and the statements about extensions for the run, which asks what the server has before it uses it. A
run on a server that fails a statement may stop half way; then nothing is said about what it has
presented. The example at the end is a server that has one of two extensions.
-/

namespace PgVitals.Report

open PgVitals.Catalog PgVitals.Text

/-! ## Servers on which no statement fails -/

/-- A server of a release on which no statement fails and whose results can be shown: a row has a
cell, and no whole number is too large. -/
structure Serves (w : Surroundings) (release : Release) : Prop extends w.Obliging where
  told : ∀ past set, (w.reply past (.plain "SELECT version()")).set? = some set →
    ∃ cell cells rest, set.rows = (cell :: cells) :: rest ∧ Release.ofCell cell = .ok release
  celled : ∀ past statement set, (w.reply past statement).set? = some set →
    set.rows.head? ≠ some []
  sized : ∀ past statement set, (w.reply past statement).set? = some set →
    ∀ row ∈ set.rows, ∀ v ∈ row, v.Sized

section

variable {w : Surroundings} {release : Release} (serves : Serves w release)

include serves

/-- A result has no row, or a first cell. -/
theorem Serves.rows {past : List Event} {statement : Statement} {set : ResultSet}
    (answer : (w.reply past statement).set? = some set) :
    set.rows = [] ∨ ∃ cell cells rest, set.rows = (cell :: cells) :: rest := by
  have celled := serves.celled past statement set answer
  cases shape : set.rows with
  | nil => exact .inl rfl
  | cons row rest =>
    cases row with
    | nil =>
      rw [shape] at celled
      exact absurd rfl celled
    | cons cell cells => exact .inr ⟨cell, cells, rest, rfl⟩

theorem returns_installExtension (name : String) :
    Run.Returns w (installExtension name) fun _ => True := by
  unfold installExtension
  refine (Run.Returns.rows serves.toObliging _).bind ?_
  rintro rows ⟨past, set, answer, rfl⟩
  rcases serves.rows answer with none | ⟨cell, cells, rest, shape⟩
  · rw [none]
    exact (Run.Returns.log serves.toObliging _ _).bind fun _ _ => .pure trivial
  · rw [shape]
    refine (Run.Returns.firstCell rfl).bind fun installed _ => ?_
    dsimp only
    split
    · exact (Run.Returns.execute serves.toObliging _).bind fun _ _ =>
        (Run.Returns.log serves.toObliging _ _).bind fun _ _ => .pure trivial
    · exact .pure trivial

theorem returns_setup : Run.Returns w setup fun _ => True := by
  have claim : Run.Returns w claimSchema fun _ => True :=
    (Run.Returns.execute serves.toObliging _).rescue.bind fun _ _ => .hold _
  have provide : ∀ name, Run.Returns w (provideExtension name) fun _ => True := by
    intro name
    refine (returns_installExtension serves name).bind fun found _ => ?_
    split
    · exact .hold _
    · exact .pure trivial
  unfold setup
  exact claim.bind fun _ _ => (Run.Returns.execute serves.toObliging _).bind fun _ _ =>
    (Run.Returns.forM provide).bind fun _ _ => .forM (Run.Returns.execute serves.toObliging)

theorem returns_printParagraph (text : String) :
    Run.Returns w (printParagraph text) fun _ => True :=
  (Run.Returns.printLine serves.toObliging _).bind fun _ _ => .printLine serves.toObliging _

/-- The query of a section that has one brings something back. -/
theorem returns_fetchSection {entry : Report.Section} (asks : (entry.sql? release).isSome = true) :
    Run.Returns w (fetchSection release entry) fun set =>
      ∃ past statement, (w.reply past statement).set? = some set := by
  obtain ⟨sql, chosen⟩ := Option.isSome_iff_exists.mp asks
  unfold fetchSection
  rw [chosen]
  intro s calm
  obtain ⟨set, s', fetched, calm', past, answer⟩ :=
    Run.Returns.fetch serves.toObliging (.plain sql) s calm
  exact ⟨set, s', fetched, calm', past, _, answer⟩

theorem returns_valueText {past : List Event} {statement : Statement} {set : ResultSet}
    (answer : (w.reply past statement).set? = some set) :
    Run.Returns w (valueText set) fun _ => True := by
  unfold valueText
  rcases serves.rows answer with none | ⟨cell, cells, rest, shape⟩
  · rw [none]
    exact .pure trivial
  · have sized := serves.sized past statement set answer
    rw [shape] at sized ⊢
    -- The first cell has a text.
    obtain ⟨text, written⟩ :=
      Table.written_ok (sized _ List.mem_cons_self _ List.mem_cons_self)
    refine (Run.Returns.firstCell rfl).bind fun first same => ?_
    subst same
    exact .ofFault written trivial

theorem returns_printSection (request : Request) {entry : Report.Section}
    (applies : entry.applies release = true) :
    Run.Returns w (printSection request release entry) fun _ => True := by
  have asks := isSome_sql? applies
  unfold printSection
  refine Run.Returns.get.bind fun now _ => ?_
  split
  · exact returns_printParagraph serves _
  · cases entry with
    | heading title => exact returns_printParagraph serves _
    | value label fragments =>
      refine (returns_fetchSection serves asks).bind ?_
      rintro set ⟨past, statement, answer⟩
      exact (returns_valueText serves answer).bind fun _ _ => returns_printParagraph serves _
    | table title fragments extension =>
      refine (returns_fetchSection serves asks).bind ?_
      rintro set ⟨past, statement, answer⟩
      obtain ⟨body, rendered⟩ :=
        Table.render_ok Table.dashed set.columns (serves.sized past statement set answer)
      have drawn : ∃ text, titledTable title set = .ok text := by
        unfold titledTable
        rw [rendered]
        exact ⟨_, rfl⟩
      obtain ⟨text, drawn⟩ := drawn
      exact (Run.Returns.ofFault drawn trivial).bind fun _ (_ : True) =>
        .printLine serves.toObliging _

theorem returns_printSections (request : Request) {plan : List Report.Section}
    (applies : ∀ entry ∈ plan, entry.applies release = true) :
    Run.Returns w (printSections request release plan) fun _ => True := by
  induction plan with
  | nil => exact .pure trivial
  | cons entry plan ih =>
    unfold printSections
    refine (Run.Returns.shutdownWanted serves.toObliging).bind ?_
    -- Nobody wants the end, so the section is printed.
    rintro _ rfl
    have others := ih fun entry member => applies entry (List.mem_cons_of_mem _ member)
    exact (returns_printSection serves request (applies entry List.mem_cons_self)).bind
      fun _ _ => others

theorem returns_teardown : Run.Returns w teardown fun _ => True := by
  unfold teardown
  refine Run.Returns.get.bind fun now _ => ?_
  split
  · exact (Run.Returns.execute serves.toObliging _).bind fun _ _ => .hold _
  · exact .pure trivial

/-- Where no statement fails, a report comes to its end. -/
theorem returns_run (database : String) (titles : List String) :
    Run.Returns w (run ⟨database, .list (titles.map Value.text)⟩) fun _ => True := by
  have build : Run.Returns w (build ⟨database, .list (titles.map Value.text)⟩ release)
      fun _ => True := by
    unfold build
    refine (returns_setup serves).bind fun _ _ => ?_
    refine (Run.Returns.ofFault (Q := (· = titles.map Value.text)) (members_titles titles)
      rfl).bind ?_
    rintro _ rfl
    exact returns_printSections serves _ fun entry member =>
      (fits_of_planned member).applies
  unfold run
  refine (Run.Returns.fetchRelease serves.toObliging serves.told).bind ?_
  rintro _ rfl
  -- Nothing fails that would have to be rescued.
  exact build.rescue.bind fun _ _ => returns_teardown serves

end

/-! ## Agreement -/

/-- **The script and the run present the same report.** The script prints its banner and announces
each section of the plan; all its other lines are statements, each ended by a semicolon. A run that
returns has sent the same statements in the same order, but for those that stand in the script only,
and those of the sections whose extension the server does not have. It has printed a paragraph for
each section of the plan, with the announcement of the script in front. Where no statement fails,
the run returns. -/
theorem script_and_run_agree (release : Release) {database : String} (unbroken : Unbroken database)
    (titles : List String) :
    (∃ text, script release database (.list (titles.map Value.text)) = .ok text ∧
      statementLines text = (scripted release (planned release titles)).map terminated ∧
      echoLines text = banner release ++
        (planned release titles).map fun s => echo (announcement database s)) ∧
    (∀ entry ∈ planned release titles, (entry.sql? release).isSome = !entry.isHeading) ∧
    (∀ available, performed release (planned release titles) available =
      (scripted release (reachable available (planned release titles))).filter
        fun sql => !isScriptOnly sql) ∧
    ∀ (w : Surroundings) (s : Session), s.holdings.extensions = [] →
      (Serves w release → s.Calm → ∃ s' sent paragraphs,
        (run ⟨database, .list (titles.map Value.text)⟩).perform w s = (.ok (), s') ∧
          Course w release database titles s s' sent paragraphs) ∧
      ∀ s', (Run.fetchRelease.perform w s).1 = .ok release →
        (run ⟨database, .list (titles.map Value.text)⟩).perform w s = (.ok (), s') →
        ∃ sent paragraphs, Course w release database titles s s' sent paragraphs := by
  have fits : ∀ entry ∈ planned release titles, Fits release entry :=
    fun entry member => fits_of_planned member
  refine ⟨⟨_, script_eq release database titles, ?_, ?_⟩, ?_, performed_eq release titles, ?_⟩
  · exact statementLines_scriptText fits unbroken
  · exact echoLines_scriptText fits unbroken
  · exact fun entry member => isSome_sql? (fits entry member).applies
  · intro w s bare
    refine ⟨?_, fun s' told returned => run_returns bare told returned⟩
    intro serves calm
    obtain ⟨found, s₁, fetched, -, rfl⟩ :=
      Run.Returns.fetchRelease serves.toObliging serves.told s calm
    obtain ⟨⟨⟩, s', returned, -, -⟩ := returns_run serves database titles s calm
    have told : (Run.fetchRelease.perform w s).1 = .ok found := by rw [fetched]
    obtain ⟨sent, paragraphs, course⟩ := run_returns bare told returned
    exact ⟨s', sent, paragraphs, returned, course⟩

/-- A server that has one of the extensions. -/
def partlyExtended : Surroundings where
  reply _ statement :=
    if statement.sql = "SELECT version()" then
      { outcome := .result ⟨["version"], [[.text "PostgreSQL 16.4"]]⟩ }
    else
      match statement.params with
      | .named [("name", .text "pg_buffercache")] =>
        { outcome := .result ⟨["?column?"], [[.bool true]]⟩ }
      | _ => { outcome := .done }

theorem partlyExtended_serves : Serves partlyExtended ⟨16, 4⟩ := by
  let version : ResultSet := ⟨["version"], [[.text "PostgreSQL 16.4"]]⟩
  let installed : ResultSet := ⟨["?column?"], [[.bool true]]⟩
  -- There are three replies in all, none of which disturbs the run.
  have replies : ∀ past statement,
      (partlyExtended.reply past statement).accepts = true ∧
      (partlyExtended.reply past statement).closes = false ∧
      (partlyExtended.reply past statement).signals = [] ∧
      ∀ set, (partlyExtended.reply past statement).set? = some set →
        set = version ∨ set = installed ∨ set = .empty := by
    intro past statement
    unfold partlyExtended
    dsimp only
    split
    · exact ⟨rfl, rfl, rfl, fun set answer => .inl (Option.some.inj answer).symm⟩
    · split
      · exact ⟨rfl, rfl, rfl, fun set answer => .inr (.inl (Option.some.inj answer).symm)⟩
      · exact ⟨rfl, rfl, rfl, fun set answer => .inr (.inr (Option.some.inj answer).symm)⟩
  have read : Release.ofCell (.text "PostgreSQL 16.4") = .ok ⟨16, 4⟩ := by decide +kernel
  refine ⟨⟨?_, ?_, ?_, fun _ => List.not_mem_nil⟩, ?_, ?_, ?_⟩
  · exact fun past statement => (replies past statement).1
  · exact fun past statement => (replies past statement).2.1
  · intro past statement
    rw [(replies past statement).2.2.1]
    exact List.not_mem_nil
  · intro past set answer
    have same : some version = some set := answer
    cases same
    exact ⟨_, _, _, rfl, read⟩
  · intro past statement set answer
    rcases (replies past statement).2.2.2 set answer with rfl | rfl | rfl
    · exact nofun
    · exact nofun
    · exact nofun
  · intro past statement set answer row inside v member
    rcases (replies past statement).2.2.2 set answer with rfl | rfl | rfl
    · simp_all [version, Value.Sized, Value.isWritable]
    · simp_all [installed, Value.Sized, Value.isWritable]
    · exact absurd inside List.not_mem_nil

/-- It says of one extension that it is installed, and has no row for the other. -/
theorem partlyExtended_states (past : List Event) :
    partlyExtended.reply past (stateQuery "pg_buffercache") =
        { outcome := .result ⟨["?column?"], [[.bool true]]⟩ } ∧
      partlyExtended.reply past (stateQuery "pg_visibility") = { outcome := .done } := by
  have other : Report.extensionStateQuery ≠ "SELECT version()" := by decide
  constructor
  · simp [partlyExtended, stateQuery, other]
  · simp [partlyExtended, stateQuery, other]

/-- The report on such a server leaves out the sections of one extension and shows those of the
other. -/
theorem script_and_run_agree_partlyExtended :
    Unbroken "shop" ∧ ∃ s' sent paragraphs,
      (run ⟨"shop", .list (["Extensions"].map Value.text)⟩).perform partlyExtended {} =
        (.ok (), s') ∧
      Course partlyExtended ⟨16, 4⟩ "shop" ["Extensions"] {} s' sent paragraphs ∧
      "pg_buffercache" ∈ s'.holdings.extensions ∧ "pg_visibility" ∉ s'.holdings.extensions := by
  have unbroken : Unbroken "shop" := .literal _ (by decide)
  obtain ⟨-, -, -, agrees⟩ := script_and_run_agree ⟨16, 4⟩ unbroken ["Extensions"]
  obtain ⟨s', sent, paragraphs, returned, course⟩ :=
    (agrees partlyExtended {} rfl).1 partlyExtended_serves ⟨rfl, rfl⟩
  refine ⟨unbroken, s', sent, paragraphs, returned, course, ?_, ?_⟩
  · obtain ⟨reply, asked⟩ := course.asked "pg_buffercache" List.mem_cons_self
    obtain ⟨earlier, same⟩ := course.replied _ _ asked
    rw [(partlyExtended_states earlier).1] at same
    have answer : reply.set? = some ⟨["?column?"], [[.bool true]]⟩ := by
      rw [same]
      rfl
    exact (course.available _).mpr ⟨reply, _, asked, answer, List.cons_ne_nil _ _⟩
  · rw [course.available]
    rintro ⟨reply, set, asked, answer, some⟩
    obtain ⟨earlier, same⟩ := course.replied _ _ asked
    rw [same, (partlyExtended_states earlier).2] at answer
    cases answer
    exact some rfl

end PgVitals.Report
