import PgVitals.Proofs.Report.Presenting
/-!
# The course of a report

A report that returns has sent the statements that create the helper objects, those of its sections
and the one that drops the schema. In between it has asked which extensions there are, and what it
could read from follows from the answers.

* `Provided` is what is done about some extensions: the state of each is asked for, and an extension
  that can be installed is. `Offered` says of an extension that the server had a row for it.
* `othersOf` are the statements that are about something else. `IsOther` says which these are, and
  `isOther_fragments` that all queries of sections are among them.
* `SetUp` and `Built` are what a report has done before its sections and after them, and `Course` is
  all of it; `Built.course` puts the parts together.
* `performed_eq` says that the statements of a report are those of the script on the sections that
  can be shown.

The proof goes through the text of the report with the rules of `Proofs/Session/Returning`, so it is
about reports that return. An extension that is available but could not be installed ends the
report, and is not counted as missing.
-/

namespace PgVitals.Report

open PgVitals.Catalog PgVitals.Text

variable {w : Surroundings} {s s' : Session}

/-! ## Extensions -/

/-- Asks for the state of an extension. -/
def stateQuery (name : String) : Statement :=
  ⟨Report.extensionStateQuery, .named [("name", .text name)]⟩

/-- Whether a statement asks for the state of an extension or installs one. -/
def isAboutExtension (statement : Statement) : Bool :=
  statement.sql == Report.extensionStateQuery ||
    Report.extensions.any fun name => statement.sql == Report.createExtension name

/-- The server was asked for the state of an extension and had a row for it. -/
def Offered (name : String) (sent : List (Statement × Reply)) : Prop :=
  ∃ reply set, (stateQuery name, reply) ∈ sent ∧ reply.set? = some set ∧ set.rows ≠ []

theorem offered_append {name : String} {sent more : List (Statement × Reply)} :
    Offered name (sent ++ more) ↔ Offered name sent ∨ Offered name more := by
  constructor
  · rintro ⟨reply, set, member, answer, some⟩
    rcases List.mem_append.mp member with member | member
    · exact .inl ⟨reply, set, member, answer, some⟩
    · exact .inr ⟨reply, set, member, answer, some⟩
  · rintro (⟨reply, set, member, answer, some⟩ | ⟨reply, set, member, answer, some⟩)
    · exact ⟨reply, set, List.mem_append_left _ member, answer, some⟩
    · exact ⟨reply, set, List.mem_append_right _ member, answer, some⟩

/-- Statements without placeholders ask for the state of no extension. -/
theorem not_offered {name : String} {sent : List (Statement × Reply)} {sqls : List String}
    (plain : sent.map Prod.fst = sqls.map Statement.plain) : ¬ Offered name sent := by
  rintro ⟨reply, set, member, -, -⟩
  have among : stateQuery name ∈ sqls.map Statement.plain :=
    plain ▸ List.mem_map_of_mem (f := Prod.fst) member
  obtain ⟨sql, -, same⟩ := List.mem_map.mp among
  cases same

/-- What is done about an extension: its state is asked for, and it may be installed. -/
theorem installExtension_returns {name : String} {found : Bool}
    (h : (installExtension name).perform w s = (.ok found, s')) :
    ∃ reply set more, reply.set? = some set ∧ (found = true ↔ set.rows ≠ []) ∧
      (∃ sqls ⊆ [Report.createExtension name], more.map Prod.fst = sqls.map Statement.plain) ∧
      Did w s ((stateQuery name, reply) :: more) "" s' := by
  unfold installExtension at h
  obtain ⟨rows, s₁, asked, rest⟩ := Run.of_bind_returns h
  obtain ⟨reply, set, answer, rfl, did⟩ := Run.rows_returns asked
  split at rest
  -- No row: the server does not have the extension.
  · rename_i none
    obtain ⟨⟨⟩, s₂, logged, returned⟩ := Run.of_bind_returns rest
    cases returned
    refine ⟨reply, set, [], answer, ?_, ⟨[], List.nil_subset _, rfl⟩, ?_⟩
    · exact iff_of_false Bool.false_ne_true (not_not_intro none)
    · exact did.trans (Run.log_returns logged)
  · rename_i some
    obtain ⟨installed, s₂, first, creating⟩ := Run.of_bind_returns rest
    obtain ⟨-, rfl⟩ := Run.of_firstCell_returns first
    split at creating
    -- The extension is installed, unless the row says that it is.
    · obtain ⟨⟨⟩, s₃, created, logging⟩ := Run.of_bind_returns creating
      obtain ⟨⟨⟩, s₄, logged, returned⟩ := Run.of_bind_returns logging
      cases returned
      obtain ⟨done, creation⟩ := Run.execute_returns created
      refine ⟨reply, set, [(.plain (Report.createExtension name), done)], answer,
        iff_of_true rfl some, ⟨_, List.Subset.refl _, rfl⟩, ?_⟩
      exact (did.trans creation).trans (Run.log_returns logged)
    · cases creating
      exact ⟨reply, set, [], answer, iff_of_true rfl some, ⟨[], List.nil_subset _, rfl⟩, did⟩

/-- What is done about some extensions. -/
structure Provided (w : Surroundings) (names : List String) (s : Session)
    (sent : List (Statement × Reply)) (s' : Session) : Prop extends Went w s sent "" s' where
  schema : s'.holdings.schema = s.holdings.schema
  about : ∀ exchange ∈ sent, ∃ name ∈ names,
    exchange.1 = stateQuery name ∨ exchange.1 = .plain (Report.createExtension name)
  asked : ∀ name ∈ names, ∃ reply, (stateQuery name, reply) ∈ sent
  /-- The run can read from the extensions that the server has. -/
  available : ∀ name, name ∈ s'.holdings.extensions ↔
    name ∈ s.holdings.extensions ∨ Offered name sent

theorem provideExtension_returns {name : String}
    (h : (provideExtension name).perform w s = (.ok (), s')) :
    ∃ sent, Provided w [name] s sent s' := by
  unfold provideExtension at h
  obtain ⟨found, s₁, installed, rest⟩ := Run.of_bind_returns h
  obtain ⟨reply, set, more, answer, there, ⟨sqls, create, plain⟩, did⟩ :=
    installExtension_returns installed
  have about : ∀ exchange ∈ (stateQuery name, reply) :: more, ∃ other ∈ [name],
      exchange.1 = stateQuery other ∨ exchange.1 = .plain (Report.createExtension other) := by
    intro exchange member
    refine ⟨name, List.mem_cons_self, ?_⟩
    rcases List.mem_cons.mp member with rfl | member
    · exact .inl rfl
    · have among : exchange.1 ∈ sqls.map Statement.plain :=
        plain ▸ List.mem_map_of_mem (f := Prod.fst) member
      obtain ⟨sql, creates, same⟩ := List.mem_map.mp among
      rw [List.mem_singleton.mp (create creates)] at same
      exact .inr same.symm
  -- The server has a row for this extension, and for no other one.
  have offered : ∀ other, Offered other ((stateQuery name, reply) :: more) ↔
      other = name ∧ found = true := by
    intro other
    rw [there]
    constructor
    · rintro ⟨reply', set', member, answer', some⟩
      rcases List.mem_cons.mp member with same | member
      · cases same
        cases answer.symm.trans answer'
        exact ⟨rfl, some⟩
      · exact absurd ⟨reply', set', member, answer', some⟩ (not_offered plain)
    · rintro ⟨rfl, some⟩
      exact ⟨reply, set, List.mem_cons_self, answer, some⟩
  have asked : ∀ other ∈ [name], ∃ reply', (stateQuery other, reply') ∈
      (stateQuery name, reply) :: more := by
    intro other member
    rw [List.mem_singleton.mp member]
    exact ⟨reply, List.mem_cons_self⟩
  have schema : s₁.holdings.schema = s.holdings.schema := congrArg Holdings.schema did.holdings
  refine ⟨(stateQuery name, reply) :: more, ?_⟩
  split at rest
  · rename_i here
    obtain ⟨went, holdings⟩ := Run.hold_returns rest
    have whole := did.toWent.trans went
    rw [List.append_nil] at whole
    refine ⟨whole, by rw [holdings, schema], about, asked, ?_⟩
    intro other
    rw [holdings]
    show other ∈ (if s₁.holdings.extensions.contains name then s₁.holdings.extensions
      else name :: s₁.holdings.extensions) ↔ _
    rw [offered, did.holdings]
    split
    · rename_i known
      have member : name ∈ s.holdings.extensions := List.contains_iff_mem.mp known
      constructor
      · exact .inl
      · rintro (held | ⟨rfl, -⟩)
        · exact held
        · exact member
    · rw [List.mem_cons, or_comm]
      simp [here]
  · rename_i missing
    cases rest
    refine ⟨did.toWent, schema, about, asked, ?_⟩
    intro other
    rw [offered, did.holdings]
    simp [missing]

/-- What is done about several extensions is done about one after the other. -/
theorem provideExtensions_returns {names : List String}
    (h : (names.forM provideExtension).perform w s = (.ok (), s')) :
    ∃ sent, Provided w names s sent s' := by
  induction names generalizing s with
  | nil =>
    cases h
    refine ⟨[], Did.rest.toWent, rfl, nofun, nofun, fun name => ?_⟩
    have never : ¬ Offered name [] := fun ⟨_, _, member, _⟩ => List.not_mem_nil member
    exact (or_iff_left never).symm
  | cons first names ih =>
    obtain ⟨⟨⟩, s₁, one, others⟩ := Run.of_bind_returns h
    obtain ⟨sent, head⟩ := provideExtension_returns one
    obtain ⟨more, tail⟩ := ih others
    refine ⟨sent ++ more, head.toWent.trans tail.toWent, tail.schema.trans head.schema, ?_, ?_, ?_⟩
    · intro exchange member
      rcases List.mem_append.mp member with member | member
      · obtain ⟨name, among, about⟩ := head.about exchange member
        exact ⟨name, List.mem_append_left names among, about⟩
      · obtain ⟨name, among, about⟩ := tail.about exchange member
        exact ⟨name, List.mem_cons_of_mem _ among, about⟩
    · intro name member
      rcases List.mem_cons.mp member with rfl | member
      · obtain ⟨reply, asked⟩ := head.asked _ List.mem_cons_self
        exact ⟨reply, List.mem_append_left _ asked⟩
      · obtain ⟨reply, asked⟩ := tail.asked name member
        exact ⟨reply, List.mem_append_right _ asked⟩
    · intro name
      rw [tail.available, head.available, offered_append, or_assoc]

/-- Only statements about extensions are sent for the extensions of the report. -/
theorem Provided.isAboutExtension {sent : List (Statement × Reply)}
    (h : Provided w Report.extensions s sent s') :
    ∀ exchange ∈ sent, isAboutExtension exchange.1 = true := by
  intro exchange member
  obtain ⟨name, among, same | same⟩ := h.about exchange member
  · rw [same]
    rfl
  · rw [same, Report.isAboutExtension, Bool.or_eq_true, List.any_eq_true]
    exact .inr ⟨name, among, beq_self_eq_true _⟩

/-! ## The schema -/

theorem claimSchema_returns (h : claimSchema.perform w s = (.ok (), s')) :
    ∃ reply, Went w s [(.plain Report.createSchema, reply)] "" s' ∧
      s'.holdings = { s.holdings with schema := true } := by
  unfold claimSchema at h
  obtain ⟨⟨⟩, s₁, claimed, held⟩ := Run.of_bind_returns h
  -- Whatever the refusal was, it remains a failure.
  have executed : (Run.execute Report.createSchema).perform w s = (.ok (), s₁) := by
    refine Run.of_rescue_returns ?_ claimed
    intro failure s₁ s₂ a
    split
    · split <;> nofun
    · nofun
  obtain ⟨reply, did⟩ := Run.execute_returns executed
  obtain ⟨went, holdings⟩ := Run.hold_returns held
  exact ⟨reply, did.toWent.trans went, by rw [holdings, did.holdings]⟩

theorem teardown_returns (owned : s.holdings.schema = true)
    (h : teardown.perform w s = (.ok (), s')) :
    ∃ reply, Went w s [(.plain Report.dropSchema, reply)] "" s' ∧
      s'.holdings.extensions = s.holdings.extensions := by
  unfold teardown at h
  obtain ⟨now, s₁, looked, dropping⟩ := Run.of_bind_returns h
  cases looked
  rw [if_pos owned] at dropping
  obtain ⟨⟨⟩, s₂, dropped, held⟩ := Run.of_bind_returns dropping
  obtain ⟨reply, did⟩ := Run.execute_returns dropped
  obtain ⟨went, holdings⟩ := Run.hold_returns held
  exact ⟨reply, did.toWent.trans went, by rw [holdings, did.holdings]⟩

/-! ## Statements about other things -/

/-- The statements that are not about extensions. -/
def othersOf (sent : List (Statement × Reply)) : List Statement :=
  (sent.map Prod.fst).filter fun statement => !isAboutExtension statement

theorem othersOf_append (sent more : List (Statement × Reply)) :
    othersOf (sent ++ more) = othersOf sent ++ othersOf more := by
  rw [othersOf, List.map_append, List.filter_append]
  rfl

/-- The statements about extensions are left out. -/
theorem Provided.othersOf {sent : List (Statement × Reply)}
    (h : Provided w Report.extensions s sent s') : othersOf sent = [] := by
  rw [Report.othersOf, List.filter_eq_nil_iff]
  intro statement member
  obtain ⟨exchange, among, rfl⟩ := List.mem_map.mp member
  rw [h.isAboutExtension exchange among]
  exact Bool.false_ne_true

/-- Whether a statement stands in the script only: it names the application or creates an extension
that may be there already. -/
def isScriptOnly (sql : String) : Bool :=
  sql == "SET application_name to 'pgreport'" ||
    Report.extensions.any fun name => sql == Report.createExtensionIfMissing name

/-- The helper objects, the sections and the schema are about something else. -/
structure IsOther (sql : String) : Prop where
  run : isAboutExtension (.plain sql) = false
  script : isScriptOnly sql = false

instance (sql : String) : Decidable (IsOther sql) :=
  decidable_of_iff (isAboutExtension (.plain sql) = false ∧ isScriptOnly sql = false)
    ⟨fun h => ⟨h.1, h.2⟩, fun h => ⟨h.run, h.script⟩⟩

theorem othersOf_plain {sent : List (Statement × Reply)} {sqls : List String}
    (plain : sent.map Prod.fst = sqls.map Statement.plain) (other : ∀ sql ∈ sqls, IsOther sql) :
    othersOf sent = sqls.map Statement.plain := by
  rw [othersOf, plain, List.filter_eq_self]
  intro statement member
  obtain ⟨sql, among, rfl⟩ := List.mem_map.mp member
  rw [(other sql among).run]
  rfl

theorem filter_others {sqls : List String} (other : ∀ sql ∈ sqls, IsOther sql) :
    (sqls.filter fun sql => !isScriptOnly sql) = sqls := by
  rw [List.filter_eq_self]
  intro sql member
  rw [(other sql member).script]
  rfl

theorem isOther_opening : ∀ sql ∈ [Report.createSchema, Report.setSearchPath], IsOther sql := by
  decide +kernel

theorem isOther_helperObjects : ∀ sql ∈ Report.helperObjects, IsOther sql := by
  decide +kernel

theorem isOther_dropSchema : ∀ sql ∈ [Report.dropSchema], IsOther sql := by
  decide +kernel

theorem isOther_fragments : ∀ s ∈ Report.sections, ∀ f ∈ s.fragments, IsOther f.sql := by
  decide +kernel

/-- No section that can be shown is about extensions. -/
theorem isOther_reachable {release : Release} {titles available : List String} {sql : String}
    (h : sql ∈ (reachable available (planned release titles)).filterMap fun s => s.sql? release) :
    IsOther sql := by
  obtain ⟨s, member, chosen⟩ := List.mem_filterMap.mp h
  have listed := mem_sections_of_planned (List.mem_filter.mp member).1
  obtain ⟨f, applies, rfl⟩ := Option.map_eq_some_iff.mp chosen
  exact isOther_fragments s listed f (List.mem_of_find?_eq_some applies)

/-! ## Before the end -/

/-- What the helper objects take, which is the same for all servers but for the extensions. -/
structure SetUp (w : Surroundings) (s : Session) (sent : List (Statement × Reply))
    (s' : Session) : Prop extends Went w s sent "" s' where
  owned : s'.holdings.schema = true
  others : othersOf sent =
    ([Report.createSchema, Report.setSearchPath] ++ Report.helperObjects).map Statement.plain
  asked : ∀ name ∈ Report.extensions, ∃ reply, (stateQuery name, reply) ∈ sent
  available : ∀ name, name ∈ s'.holdings.extensions ↔
    name ∈ s.holdings.extensions ∨ Offered name sent

theorem setup_returns (h : setup.perform w s = (.ok (), s')) : ∃ sent, SetUp w s sent s' := by
  unfold setup at h
  obtain ⟨⟨⟩, s₁, claimed, searching⟩ := Run.of_bind_returns h
  obtain ⟨⟨⟩, s₂, searched, providing⟩ := Run.of_bind_returns searching
  obtain ⟨⟨⟩, s₃, provided, helping⟩ := Run.of_bind_returns providing
  obtain ⟨creation, claim, holdings⟩ := claimSchema_returns claimed
  obtain ⟨path, search⟩ := Run.execute_returns searched
  obtain ⟨extensions, provide⟩ := provideExtensions_returns provided
  obtain ⟨helpers, statements, help⟩ := Run.forM_execute_returns helping
  let opening : List (Statement × Reply) :=
    [(.plain Report.createSchema, creation), (.plain Report.setSearchPath, path)]
  have opens : opening.map Prod.fst =
      [Report.createSchema, Report.setSearchPath].map Statement.plain := rfl
  have kept : s₂.holdings.extensions = s.holdings.extensions := by
    rw [search.holdings, holdings]
  have went := ((claim.trans search.toWent).trans provide.toWent).trans help.toWent
  refine ⟨opening ++ extensions ++ helpers, went, ?_, ?_, ?_, ?_⟩
  · rw [help.holdings, provide.schema, search.holdings, holdings]
  · rw [othersOf_append, othersOf_append, othersOf_plain opens isOther_opening, provide.othersOf,
      othersOf_plain statements isOther_helperObjects, List.append_nil, List.map_append]
  · intro name member
    obtain ⟨reply, asked⟩ := provide.asked name member
    exact ⟨reply, List.mem_append_left _ (List.mem_append_right _ asked)⟩
  · -- Only what was sent about the extensions tells which ones the server has.
    intro name
    rw [help.holdings, provide.available, kept, offered_append, offered_append,
      or_iff_right (not_offered opens), or_iff_left (not_offered statements)]

/-- What a report has done before it drops its schema: it has set up the helper objects, and then
gone through its sections, for each of which `parts` tells what was sent and printed. -/
structure Built (w : Surroundings) (release : Release) (database : String)
    (titles : List String) (s : Session) (helpers : List (Statement × Reply))
    (parts : List (List (Statement × Reply) × String)) (s' : Session) : Prop
    extends Went w s (helpers ++ parts.flatMap Prod.fst) (String.join (parts.map Prod.snd)) s' where
  owned : s'.holdings.schema = true
  others : othersOf helpers =
    ([Report.createSchema, Report.setSearchPath] ++ Report.helperObjects).map Statement.plain
  asked : ∀ name ∈ Report.extensions, ∃ reply, (stateQuery name, reply) ∈ helpers
  available : ∀ name, name ∈ s'.holdings.extensions ↔
    name ∈ s.holdings.extensions ∨ Offered name helpers
  presented : List.Forall₂ (fun entry part =>
      Presents release database s'.holdings.extensions entry part.1 part.2)
    (planned release titles) parts

theorem build_returns {release : Release} {database : String} {titles : List String}
    (h : (build ⟨database, .list (titles.map Value.text)⟩ release).perform w s = (.ok (), s')) :
    ∃ helpers parts, Built w release database titles s helpers parts s' := by
  unfold build at h
  obtain ⟨⟨⟩, s₁, prepared, planning⟩ := Run.of_bind_returns h
  obtain ⟨excluded, s₂, members, printing⟩ := Run.of_bind_returns planning
  obtain ⟨read, rfl⟩ := Run.of_ofFault_returns members
  obtain rfl : titles.map Value.text = excluded :=
    Except.ok.inj ((members_titles titles).symm.trans read)
  obtain ⟨helpers, set⟩ := setup_returns prepared
  have titled : ∀ entry ∈ planned release titles, Titled entry.title :=
    fun entry member => (fits_of_planned member).title
  obtain ⟨parts, presented, shown⟩ := printSections_returns titled printing
  have went := set.toWent.trans shown.toWent
  rw [String.empty_append] at went
  rw [← shown.holdings] at presented
  refine ⟨helpers, parts, went, ?_, set.others, set.asked, ?_, presented⟩
  · rw [shown.holdings, set.owned]
  · intro name
    rw [shown.holdings, set.available]

/-! ## The whole report -/

/-- The statements of a report, without those about extensions. -/
def performed (release : Release) (plan : List Report.Section) (available : List String) :
    List String :=
  [Report.createSchema, Report.setSearchPath] ++ Report.helperObjects ++
    (reachable available plan).filterMap (fun s => s.sql? release) ++ [Report.dropSchema]

/-- They are the statements of the script on the sections that can be shown, without those that
stand in the script only. -/
theorem performed_eq (release : Release) (titles available : List String) :
    performed release (planned release titles) available =
      (scripted release (reachable available (planned release titles))).filter
        fun sql => !isScriptOnly sql := by
  have opening : ((["SET application_name to 'pgreport'", Report.createSchema,
      Report.setSearchPath] ++ Report.extensions.map Report.createExtensionIfMissing).filter
        fun sql => !isScriptOnly sql) = [Report.createSchema, Report.setSearchPath] := by
    decide +kernel
  rw [scripted, preamble, List.filter_append, List.filter_append, List.filter_append, opening,
    filter_others isOther_helperObjects, filter_others fun sql member => isOther_reachable member,
    filter_others isOther_dropSchema, performed]

/-- What a report has done from `s` to `s'`: it has asked for the release, then sent the statements
`sent`, and printed one paragraph for each section of its plan. -/
structure Course (w : Surroundings) (release : Release) (database : String)
    (titles : List String) (s s' : Session) (sent : List (Statement × Reply))
    (paragraphs : List String) : Prop where
  exchanges : ∃ version, s'.exchanges = s.exchanges ++ (.plain "SELECT version()", version) :: sent
  replied : ∀ statement reply, (statement, reply) ∈ sent →
    ∃ earlier, reply = w.reply earlier statement
  statements : othersOf sent =
    (performed release (planned release titles) s'.holdings.extensions).map Statement.plain
  asked : ∀ name ∈ Report.extensions, ∃ reply, (stateQuery name, reply) ∈ sent
  /-- A section can be shown where the server was found to have the extension it needs. -/
  available : ∀ name, name ∈ s'.holdings.extensions ↔ Offered name sent
  output : s'.output = s.output ++ String.join paragraphs
  presented : List.Forall₂ (fun entry paragraph => ∃ own ⊆ sent,
      Presents release database s'.holdings.extensions entry own paragraph)
    (planned release titles) paragraphs

/-- What is printed about the sections goes back to what was sent. -/
theorem presented_within {release : Release} {database : String} {available : List String}
    {plan : List Report.Section} {parts : List (List (Statement × Reply) × String)}
    {sent : List (Statement × Reply)} (within : ∀ part ∈ parts, part.1 ⊆ sent)
    (h : List.Forall₂ (fun entry part =>
      Presents release database available entry part.1 part.2) plan parts) :
    List.Forall₂ (fun entry paragraph => ∃ own ⊆ sent,
      Presents release database available entry own paragraph) plan (parts.map Prod.snd) := by
  induction h with
  | nil => exact .nil
  | @cons entry part plan parts presents _ ih =>
    have others := ih fun part member => within part (List.mem_cons_of_mem _ member)
    exact .cons ⟨part.1, within part List.mem_cons_self, presents⟩ others

/-- The course of a report out of its parts: the release, everything before the end, and the end. -/
theorem Built.course {release : Release} {database : String} {titles : List String}
    {s₁ s₂ : Session} {version dropped : Reply} {helpers : List (Statement × Reply)}
    {parts : List (List (Statement × Reply) × String)} (bare : s.holdings.extensions = [])
    (asked : Did w s [(.plain "SELECT version()", version)] "" s₁)
    (built : Built w release database titles s₁ helpers parts s₂)
    (drop : Went w s₂ [(.plain Report.dropSchema, dropped)] "" s')
    (same : s'.holdings.extensions = s₂.holdings.extensions) :
    Course w release database titles s s'
      (helpers ++ parts.flatMap Prod.fst ++ [(.plain Report.dropSchema, dropped)])
      (parts.map Prod.snd) := by
  have queries := presents_sends built.presented
  have ends : [(Statement.plain Report.dropSchema, dropped)].map Prod.fst =
      [Report.dropSchema].map Statement.plain := rfl
  have whole := (asked.toWent.trans built.toWent).trans drop
  refine ⟨⟨version, ?_⟩, ?_, ?_, ?_, ?_, ?_, ?_⟩
  · rw [whole.exchanges, List.append_assoc]
    rfl
  · intro statement reply member
    refine whole.replied statement reply ?_
    rw [List.append_assoc, List.append_assoc, ← List.append_assoc helpers]
    exact List.mem_append_right _ member
  · rw [othersOf_append, othersOf_append, built.others,
      othersOf_plain queries fun sql member => isOther_reachable member,
      othersOf_plain ends isOther_dropSchema, same, performed]
    simp only [List.map_append]
  · intro name member
    obtain ⟨reply, asked⟩ := built.asked name member
    exact ⟨reply, List.mem_append_left _ (List.mem_append_left _ asked)⟩
  · intro name
    rw [same, built.available, offered_append, offered_append, or_iff_left (not_offered ends),
      or_iff_left (not_offered queries), asked.holdings, bare, or_iff_right List.not_mem_nil]
  · rw [whole.output, String.empty_append, String.append_empty]
  · rw [same]
    refine presented_within ?_ built.presented
    intro part member exchange own
    have among : exchange ∈ parts.flatMap Prod.fst := List.mem_flatMap.mpr ⟨part, member, own⟩
    exact List.mem_append_left _ (List.mem_append_right _ among)

/-- **What a report that returns has done.** -/
theorem run_returns {release : Release} {database : String} {titles : List String}
    (bare : s.holdings.extensions = [])
    (told : (Run.fetchRelease.perform w s).1 = .ok release)
    (h : (run ⟨database, .list (titles.map Value.text)⟩).perform w s = (.ok (), s')) :
    ∃ sent paragraphs, Course w release database titles s s' sent paragraphs := by
  unfold run at h
  obtain ⟨release', s₁, fetched, building⟩ := Run.of_bind_returns h
  obtain ⟨⟨⟩, s₂, rescued, ending⟩ := Run.of_bind_returns building
  obtain rfl : release' = release := by
    rw [fetched] at told
    exact Except.ok.inj told
  -- A report that had to be rescued would have failed.
  have completed : (build ⟨database, .list (titles.map Value.text)⟩ release').perform w s₁ =
      (.ok (), s₂) := by
    refine Run.of_rescue_returns ?_ rescued
    intro failure s₃ s₄ a returned
    obtain ⟨⟨⟩, s₅, -, failed⟩ := Run.of_bind_returns returned
    cases failed
  obtain ⟨version, asked⟩ := Run.fetchRelease_returns fetched
  obtain ⟨helpers, parts, built⟩ := build_returns completed
  obtain ⟨dropped, drop, same⟩ := teardown_returns built.owned ending
  exact ⟨_, _, built.course bare asked drop same⟩

end PgVitals.Report
