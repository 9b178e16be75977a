import PgVitals.Proofs.Report.Lines
import PgVitals.Proofs.Session.Returning
import PgVitals.Report.Live
import Mathlib.Data.List.Forall2
/-!
# What a report presents

A report that returns has gone through all sections of its plan. About each of them it has sent at
most one statement and printed one text, which begins with the announcement that the script makes,
too.

* `Presents` lists what a run does about a section: a heading, a section that is skipped because its
  extension is missing, a value, a table. With each come the statement, its answer and the text.
* `printSection_returns` says that a section which is printed is presented, and
  `printSections_returns` is the induction over the plan.
* `reachable` are the sections that can be shown, and `presents_sends` says that the queries of a
  report are those of these, in their order.
* `trimEnd_center` is why a title looks the same in both: it stands in the middle of its line, and
  no blank follows it.

What a value or a table looks like is taken as the program draws it. A section without an answer
that can be shown ends the report, and so is none of these.
-/

namespace PgVitals.Report

open PgVitals.Catalog PgVitals.Text

variable {w : Surroundings} {s s' : Session}

/-! ## Titles of tables -/

/-- What is trimmed off the end ends at the last character that stays. -/
theorem trimEndBy_append {p : Char → Bool} {c : Char} {cs rest : List Char} (stays : p c = false)
    (trimmed : ∀ d ∈ rest, p d = true) : trimEndBy p (cs ++ c :: rest) = cs ++ [c] := by
  have back : (cs ++ c :: rest).reverse = rest.reverse ++ c :: cs.reverse := by simp
  have dropped : ∀ d ∈ rest.reverse, p d = true := fun d member =>
    trimmed d (List.mem_reverse.mp member)
  rw [trimEndBy, back, List.dropWhile_append_of_pos dropped, List.dropWhile_cons, stays,
    if_neg Bool.false_ne_true]
  simp

/-- A title in the middle ends where it ends, for no blank follows it there. -/
theorem trimEnd_center {title : String} (h : Titled title) (n : Nat) :
    trimEnd (center ' ' title n) = repeated (centerMargin title.toList.length n) ' ' ++ title := by
  obtain ⟨c, last, visible⟩ := h.ends
  obtain ⟨before, shape⟩ := List.getLast?_eq_some_iff.mp (Option.mem_def.mp last)
  let margin := List.replicate (centerMargin title.toList.length n) ' '
  let behind := List.replicate
    (n - title.toList.length - centerMargin title.toList.length n) ' '
  have blank : ∀ d ∈ behind, isBlank d = true := by
    intro d member
    rw [List.eq_of_mem_replicate member]
    decide
  -- The title ends in the character `c`; all that stands behind it is blank.
  have centred : (center ' ' title n).toList = (margin ++ before) ++ c :: behind := by
    rw [center, String.toList_ofList]
    show margin ++ title.toList ++ behind = _
    rw [shape]
    simp
  rw [trimEnd, centred, trimEndBy_append visible blank, ← String.toList_inj, String.toList_ofList,
    String.toList_append, repeated, String.toList_ofList]
  show margin ++ before ++ [c] = margin ++ title.toList
  rw [shape, List.append_assoc]

/-- A table of the report is the table of its results below its title. -/
theorem titledTable_ok {title text : String} {set : ResultSet} (h : Titled title)
    (drawn : titledTable title set = .ok text) :
    ∃ margin body, Table.render Table.dashed set.columns set.rows = .ok body ∧
      text = repeated margin ' ' ++ title ++ "\n" ++ body ++ "\n" := by
  unfold titledTable at drawn
  cases rendered : Table.render Table.dashed set.columns set.rows with
  | error fault =>
    rw [rendered] at drawn
    cases drawn
  | ok body =>
    rw [rendered] at drawn
    obtain rfl := Except.ok.inj drawn
    exact ⟨_, body, rfl, by rw [trimEnd_center h]⟩

/-! ## Sections -/

/-- The value that some rows are printed as: nothing where there is no row. -/
def valueOf? : List (List Value) → Option String
  | [] => some ""
  | (cell :: _) :: _ => cell.written.toOption
  | [] :: _ => none

/-- What a run does about a section, where some extensions are available: what it sends, with the
answers, and what it prints. -/
inductive Presents (release : Release) (database : String) (available : List String) :
    Report.Section → List (Statement × Reply) → String → Prop
  | heading (title : String) :
      Presents release database available (.heading title) []
        (announcement database (.heading title) ++ "\n\n")
  | skipped {s : Report.Section} {name : String}
      (missing : missingExtension? available s = some name) :
      Presents release database available s []
        (announcement database s ++ ": skipped, extension " ++ name ++ " is not available" ++
          "\n\n")
  | value {label : String} {fragments : List Fragment} {sql text : String} {reply : Reply}
      {set : ResultSet} (chosen : (Report.Section.value label fragments).sql? release = some sql)
      (answer : reply.set? = some set) (shown : valueOf? set.rows = some text) :
      Presents release database available (.value label fragments) [(.plain sql, reply)]
        (announcement database (.value label fragments) ++ ": " ++ text ++ "\n\n")
  | table {title : String} {fragments : List Fragment} {extension : Option String}
      {sql body : String} {reply : Reply} {set : ResultSet} (margin : Nat)
      (present : missingExtension? available (.table title fragments extension) = none)
      (chosen : (Report.Section.table title fragments extension).sql? release = some sql)
      (answer : reply.set? = some set)
      (drawn : Table.render Table.dashed set.columns set.rows = .ok body) :
      Presents release database available (.table title fragments extension)
        [(.plain sql, reply)]
        (repeated margin ' ' ++ announcement database (.table title fragments extension) ++ "\n" ++
          body ++ "\n\n")

theorem printParagraph_returns {text : String}
    (h : (printParagraph text).perform w s = (.ok (), s')) : Did w s [] (text ++ "\n\n") s' := by
  obtain ⟨⟨⟩, s₁, first, second⟩ := Run.of_bind_returns h
  have did := (Run.printLine_returns first).trans (Run.printLine_returns second)
  rw [String.append_assoc] at did
  exact did

theorem fetchSection_returns {release : Release} {entry : Report.Section} {set : ResultSet}
    (h : (fetchSection release entry).perform w s = (.ok set, s')) :
    ∃ sql reply, entry.sql? release = some sql ∧ reply.set? = some set ∧
      Did w s [(.plain sql, reply)] "" s' := by
  unfold fetchSection at h
  split at h
  · rename_i sql chosen
    obtain ⟨reply, answer, did⟩ := Run.fetch_returns h
    exact ⟨sql, reply, chosen, answer, did⟩
  · obtain ⟨fault, -⟩ := Run.of_ofFault_returns h
    cases fault

theorem valueText_returns {set : ResultSet} {text : String}
    (h : (valueText set).perform w s = (.ok text, s')) :
    valueOf? set.rows = some text ∧ s' = s := by
  unfold valueText at h
  split at h
  · rename_i none
    cases h
    rw [List.isEmpty_iff.mp none]
    exact ⟨rfl, rfl⟩
  · obtain ⟨cell, s₁, first, shown⟩ := Run.of_bind_returns h
    obtain ⟨⟨cells, rest, rows⟩, rfl⟩ := Run.of_firstCell_returns first
    obtain ⟨written, rfl⟩ := Run.of_ofFault_returns shown
    rw [rows]
    exact ⟨congrArg Except.toOption written, rfl⟩

/-- A section that is printed is presented, with the extensions that the run has. -/
theorem printSection_returns {request : Request} {release : Release} {entry : Report.Section}
    (titled : Titled entry.title)
    (h : (printSection request release entry).perform w s = (.ok (), s')) :
    ∃ sent printed, Presents release request.database s.holdings.extensions entry sent printed ∧
      Did w s sent printed s' := by
  unfold printSection at h
  obtain ⟨now, s₁, looked, rest⟩ := Run.of_bind_returns h
  cases looked
  -- Whether the section is skipped is decided before anything is sent.
  cases missing : missingExtension? s.holdings.extensions entry with
  | some name =>
    simp only [missing] at rest
    have did := printParagraph_returns rest
    -- Only tables need an extension.
    cases entry with
    | heading title => cases missing
    | value label fragments => cases missing
    | table title fragments extension => exact ⟨_, _, .skipped missing, did⟩
  | none =>
    simp only [missing] at rest
    cases entry with
    | heading title => exact ⟨_, _, .heading title, printParagraph_returns rest⟩
    | value label fragments =>
      obtain ⟨set, s₂, fetched, rest⟩ := Run.of_bind_returns rest
      obtain ⟨text, s₃, read, printed⟩ := Run.of_bind_returns rest
      obtain ⟨sql, reply, chosen, answer, did⟩ := fetchSection_returns fetched
      obtain ⟨shown, rfl⟩ := valueText_returns read
      exact ⟨_, _, .value chosen answer shown, did.trans (printParagraph_returns printed)⟩
    | table title fragments extension =>
      obtain ⟨set, s₂, fetched, rest⟩ := Run.of_bind_returns rest
      obtain ⟨text, s₃, drawn, printed⟩ := Run.of_bind_returns rest
      obtain ⟨sql, reply, chosen, answer, did⟩ := fetchSection_returns fetched
      obtain ⟨titledText, rfl⟩ := Run.of_ofFault_returns drawn
      obtain ⟨margin, body, rendered, rfl⟩ := titledTable_ok titled titledText
      have whole := did.trans (Run.printLine_returns printed)
      rw [String.append_assoc, String.empty_append] at whole
      exact ⟨_, _, .table margin missing chosen answer rendered, whole⟩

/-- **The sections of a plan are presented one after the other.** -/
theorem printSections_returns {request : Request} {release : Release} {plan : List Report.Section}
    (titled : ∀ entry ∈ plan, Titled entry.title)
    (h : (printSections request release plan).perform w s = (.ok (), s')) :
    ∃ parts : List (List (Statement × Reply) × String),
      List.Forall₂ (fun entry part =>
        Presents release request.database s.holdings.extensions entry part.1 part.2) plan parts ∧
      Did w s (parts.flatMap Prod.fst) (String.join (parts.map Prod.snd)) s' := by
  induction plan generalizing s with
  | nil =>
    cases h
    exact ⟨[], .nil, .rest⟩
  | cons entry plan ih =>
    unfold printSections at h
    obtain ⟨wanted, s₁, looked, rest⟩ := Run.of_bind_returns h
    cases looked
    have look : Did w s [] "" (s.after w .looked) := Did.after .looked rfl
    split at rest
    -- A run that was asked to end would have failed.
    · obtain ⟨a, s₂, failed, -⟩ := Run.of_bind_returns rest
      cases failed
    · obtain ⟨⟨⟩, s₂, first, others⟩ := Run.of_bind_returns rest
      obtain ⟨sent, printed, presents, did⟩ :=
        printSection_returns (titled entry List.mem_cons_self) first
      obtain ⟨parts, presented, done⟩ :=
        ih (fun entry member => titled entry (List.mem_cons_of_mem _ member)) others
      -- No section changes which extensions there are.
      rw [look.holdings] at presents
      rw [did.holdings, look.holdings] at presented
      refine ⟨(sent, printed) :: parts, .cons presents presented, ?_⟩
      rw [List.flatMap_cons, List.map_cons, String.join_cons]
      exact (look.trans did).trans done

/-! ## Statements of sections -/

/-- The sections that can be shown: those that need no extension, or one that is available. -/
def reachable (available : List String) (plan : List Report.Section) : List Report.Section :=
  plan.filter fun s => (missingExtension? available s).isNone

section

variable {release : Release} {database : String} {available : List String}

/-- A section that is presented sends its query, unless it is skipped. -/
theorem Presents.sends {entry : Report.Section} {sent : List (Statement × Reply)} {printed : String}
    (h : Presents release database available entry sent printed) :
    sent.map Prod.fst =
      ((reachable available [entry]).filterMap fun s => s.sql? release).map Statement.plain := by
  cases h with
  | heading title => rfl
  | skipped missing => simp [reachable, missing]
  | value chosen answer shown =>
    -- A single value needs no extension.
    simp [reachable, missingExtension?, chosen]
  | table margin present chosen answer drawn =>
    simp [reachable, present, chosen]

/-- The queries of a report are those of the sections that can be shown, in their order. -/
theorem presents_sends {plan : List Report.Section}
    {parts : List (List (Statement × Reply) × String)}
    (h : List.Forall₂ (fun entry part =>
      Presents release database available entry part.1 part.2) plan parts) :
    (parts.flatMap Prod.fst).map Prod.fst =
      ((reachable available plan).filterMap fun s => s.sql? release).map Statement.plain := by
  induction h with
  | nil => rfl
  | @cons entry part plan parts presents _ ih =>
    have split : reachable available (entry :: plan) =
        reachable available [entry] ++ reachable available plan :=
      List.filter_append [entry] plan
    rw [List.flatMap_cons, List.map_append, presents.sends, ih, split, List.filterMap_append,
      List.map_append]

end

end PgVitals.Report
