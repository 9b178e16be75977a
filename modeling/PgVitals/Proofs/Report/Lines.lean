import PgVitals.Report.Script
/-!
# Lines of the script

The script is cut into lines again where it was put together, for none of its texts has a line feed
of its own. Its lines print something, are empty, or are statements: no statement begins like a
command of the terminal, and each ends in a semicolon.

* `linesOf` are the lines of a text, and `linesOf_intercalate` says that lines which are joined are
  cut apart again. `statementLines` and `echoLines` are those that are sent and those that print
  something.
* `Unbroken`, `Sendable` and `Titled` are what the texts of the catalog have to be like. `Written`
  says so of a section, and `sections_written` of all of them.
* `sectionLines_eq` says what the lines of a section are, and `statementLines_scriptText` and
  `echoLines_scriptText` what is sent and what is printed by a whole script.
* `planned` is what the titles to leave out leave of the report, and `script_eq` says that the
  script is made for that.

The texts of the catalog are long, and are looked through piece by piece: a text is `Unbroken`
exactly when its pieces are, and `Sendable` when the first one is and the others are unbroken. The
name of the database is a text from outside, so that it has no line feed is assumed where it is
printed.
-/

namespace PgVitals.Report

open PgVitals.Catalog PgVitals.Text PgVitals.Number

/-! ## Lines -/

/-- The lines of a text: what stands between its line feeds. -/
def linesOf (text : String) : List String := (text.toList.splitOn '\n').map String.ofList

/-- Whether a line has nothing to see. -/
def isBlankLine (line : String) : Bool := line.toList.all isBlank

/-- Whether a line makes the terminal print something. -/
def isEcho (line : String) : Bool := "\\echo ".toList.isPrefixOf line.toList

/-- Whether a line is sent to the server. -/
def isStatement (line : String) : Bool := !isBlankLine line && !isEcho line

/-- The lines of a script that are sent to the server. -/
def statementLines (text : String) : List String := (linesOf text).filter isStatement

/-- The lines of a script that print something. -/
def echoLines (text : String) : List String := (linesOf text).filter isEcho

/-- A text without a line feed. -/
def Unbroken (text : String) : Prop := '\n' ∉ text.toList

instance (text : String) : Decidable (Unbroken text) :=
  inferInstanceAs (Decidable ('\n' ∉ text.toList))

namespace Unbroken

variable {a b : String}

theorem append_iff : Unbroken (a ++ b) ↔ Unbroken a ∧ Unbroken b := by
  rw [Unbroken, String.toList_append, List.mem_append, not_or]
  rfl

theorem append (left : Unbroken a) (right : Unbroken b) : Unbroken (a ++ b) :=
  append_iff.mpr ⟨left, right⟩

/-- A text that is written out is looked through character by character. -/
theorem literal (cs : List Char) (h : '\n' ∉ cs) : Unbroken (String.ofList cs) := by
  intro broken
  rw [String.toList_ofList] at broken
  exact h broken

theorem digits (n : Nat) : '\n' ∉ Number.digits n := by
  intro broken
  have isDigit := Nat.isDigit_of_mem_toDigits (by omega) (by omega) broken
  exact absurd isDigit (by decide)

theorem intText (n : Int) : Unbroken (Number.intText n) := by
  unfold Number.intText
  split
  · refine literal _ fun broken => ?_
    rcases List.mem_cons.mp broken with same | broken
    · exact absurd same (by decide)
    · exact digits _ broken
  · exact literal _ (digits _)

theorem release (r : Release) : Unbroken r.text :=
  ((intText _).append (literal _ (by decide))).append (intText _)

theorem padRightWith {fill : Char} {n : Nat} (h : Unbroken a) (visible : fill ≠ '\n') :
    Unbroken (Text.padRightWith fill a n) := by
  refine literal _ fun broken => ?_
  rcases List.mem_append.mp broken with broken | broken
  · exact h broken
  · exact visible (List.eq_of_mem_replicate broken).symm

end Unbroken

/-- Lines that are joined are cut apart again. -/
theorem linesOf_intercalate {lines : List String} (unbroken : ∀ line ∈ lines, Unbroken line)
    (some : lines ≠ []) : linesOf (String.intercalate "\n" lines) = lines := by
  have feed : "\n".toList = ['\n'] := rfl
  rw [linesOf, String.toList_intercalate, feed, List.splitOn_intercalate, List.map_map]
  · show lines.map (fun line => String.ofList line.toList) = lines
    simp only [String.ofList_toList, List.map_id']
  · intro cs member
    obtain ⟨line, among, rfl⟩ := List.mem_map.mp member
    exact unbroken line among
  · simpa using some

/-! ## Statements -/

/-- A text that can be a statement of the script: it is one line, and not a command of the
terminal. -/
structure Sendable (sql : String) : Prop where
  unbroken : Unbroken sql
  begins : ∃ c ∈ sql.toList.head?, c ≠ '\\'

namespace Sendable

variable {a b sql : String}

theorem append (left : Sendable a) (right : Unbroken b) : Sendable (a ++ b) where
  unbroken := left.unbroken.append right
  begins := by
    obtain ⟨c, first, other⟩ := left.begins
    refine ⟨c, ?_, other⟩
    rw [String.toList_append, List.head?_append, Option.mem_def.mp first]
    rfl

/-- The piece in front decides how a text begins, unless it is empty. -/
theorem append_iff (filled : a ≠ "") : Sendable (a ++ b) ↔ Sendable a ∧ Unbroken b := by
  refine ⟨fun both => ?_, fun ⟨left, right⟩ => left.append right⟩
  obtain ⟨left, right⟩ := Unbroken.append_iff.mp both.unbroken
  obtain ⟨c, first, other⟩ := both.begins
  rw [String.toList_append, List.head?_append] at first
  cases start : a.toList.head? with
  | none => exact absurd (String.toList_eq_nil_iff.mp (List.head?_eq_none_iff.mp start)) filled
  | some d =>
    rw [start, Option.some_or] at first
    exact ⟨⟨left, c, start ▸ first, other⟩, right⟩

theorem literal (cs : List Char)
    (h : '\n' ∉ cs ∧ (cs.head?.any fun c => c != '\\') = true) : Sendable (String.ofList cs) where
  unbroken := .literal _ h.1
  begins := by
    obtain ⟨c, first, other⟩ := (Option.any_eq_true _ _).mp h.2
    rw [String.toList_ofList]
    exact ⟨c, first, bne_iff_ne.mp other⟩

theorem terminated (h : Sendable sql) : Sendable (terminated sql) :=
  h.append (.literal _ (by decide))

theorem isEcho (h : Sendable sql) : isEcho sql = false := by
  obtain ⟨c, first, other⟩ := h.begins
  obtain ⟨rest, cut⟩ := List.head?_eq_some_iff.mp (Option.mem_def.mp first)
  -- The texts differ in their first characters.
  rw [Report.isEcho, cut]
  show ('\\' == c && _) = false
  rw [beq_false_of_ne other.symm, Bool.false_and]

end Sendable

/-- The semicolon can be seen. -/
theorem isBlankLine_terminated (sql : String) : isBlankLine (terminated sql) = false := by
  have semicolon : ";".toList.all isBlank = false := by decide
  rw [isBlankLine, terminated, String.toList_append, List.all_append, semicolon, Bool.and_false]

theorem isEcho_echo (text : String) : isEcho (echo text) = true := by
  rw [isEcho, echo, String.toList_append, List.isPrefixOf_iff_prefix]
  exact List.prefix_append _ _

/-! ## The texts of the catalog -/

/-- A text that can be the title of a section: it is one line, and no blank ends it. -/
structure Titled (title : String) : Prop where
  unbroken : Unbroken title
  ends : ∃ c ∈ title.toList.getLast?, isBlank c = false

theorem Titled.literal (cs : List Char)
    (h : '\n' ∉ cs ∧ (cs.getLast?.any fun c => !isBlank c) = true) :
    Titled (String.ofList cs) where
  unbroken := .literal _ h.1
  ends := by
    obtain ⟨c, last, visible⟩ := (Option.any_eq_true _ _).mp h.2
    rw [Bool.not_eq_true'] at visible
    rw [String.toList_ofList]
    exact ⟨c, last, visible⟩

/-- The texts of a section can stand in the script. -/
structure Written (s : Report.Section) : Prop where
  title : Titled s.title
  fragments : ∀ f ∈ s.fragments, Sendable f.sql

namespace Written

variable {title sql extension : String} {since : Release}

theorem heading_iff : Written (.heading title) ↔ Titled title :=
  ⟨Written.title, fun titled => ⟨titled, fun _ member => absurd member List.not_mem_nil⟩⟩

/-- Of a section with one query. -/
theorem single_iff {s : Report.Section} {f : Fragment} (one : s.fragments = [f]) :
    Written s ↔ Titled s.title ∧ Sendable f.sql :=
  ⟨fun written => ⟨written.title, written.fragments f (one ▸ List.mem_cons_self)⟩,
    fun ⟨titled, sent⟩ => ⟨titled, one ▸ List.forall_mem_singleton.mpr sent⟩⟩

theorem tableSince_iff :
    Written (Report.tableSince since title sql) ↔ Titled title ∧ Sendable sql :=
  single_iff (s := Report.tableSince since title sql) (f := ⟨sql, since, none⟩) rfl

theorem value_iff : Written (Report.value title sql) ↔ Titled title ∧ Sendable sql :=
  single_iff (s := Report.value title sql) (f := ⟨sql, .always, none⟩) rfl

theorem table_iff : Written (Report.table title sql) ↔ Titled title ∧ Sendable sql :=
  tableSince_iff

theorem extensionTable_iff :
    Written (Report.extensionTable extension title sql) ↔ Titled title ∧ Sendable sql :=
  single_iff (s := Report.extensionTable extension title sql) (f := ⟨sql, .always, none⟩) rfl

theorem variants_iff {choices : List (Release × String)} :
    Written (Report.variants title choices) ↔
      Titled title ∧ ∀ choice ∈ choices, Sendable choice.2 := by
  constructor
  · intro written
    exact ⟨written.title, fun choice among => written.fragments _ (List.mem_map_of_mem among)⟩
  · rintro ⟨titled, sent⟩
    refine ⟨titled, fun f member => ?_⟩
    obtain ⟨choice, among, rfl⟩ := List.mem_map.mp member
    exact sent choice among

end Written

theorem sections_written : ∀ s ∈ Report.sections, Written s := by
  unfold Report.sections
  -- Each section by the rule for its kind, and each query down to the pieces it is put together
  -- from, of which none is empty.
  simp only [List.forall_mem_cons, Written.heading_iff, Written.value_iff, Written.table_iff,
    Written.tableSince_iff, Written.extensionTable_iff, Written.variants_iff, Sendable.append_iff,
    ne_eq, String.append_eq_empty_iff, String.reduceEq, false_and, not_false_eq_true,
    List.not_mem_nil, false_implies, implies_true, and_true]
  and_intros
  -- Titles, first pieces and further pieces have a rule of this name each.
  all_goals exact .literal _ (by decide +kernel)

theorem helperObjects_sendable : ∀ sql ∈ Report.helperObjects, Sendable sql := by
  unfold Report.helperObjects Report.getValueFunction Report.bloatTableView
    Report.bloatIndexView Report.orphanedFilesView
  simp only [List.forall_mem_cons, Sendable.append_iff, ne_eq, String.append_eq_empty_iff,
    String.reduceEq, false_and, not_false_eq_true, List.not_mem_nil, false_implies, implies_true,
    and_true]
  and_intros
  all_goals exact .literal _ (by decide +kernel)

theorem createExtensionIfMissing_sendable {name : String} (unbroken : Unbroken name) :
    Sendable (Report.createExtensionIfMissing name) := by
  have start : Sendable "CREATE EXTENSION IF NOT EXISTS " := .literal _ (by decide)
  have middle : Unbroken " SCHEMA " := .literal _ (by decide)
  have schema : Unbroken Report.schema := .literal _ (by decide)
  exact ((start.append unbroken).append middle).append schema

/-- The statements of the script in front of those of the sections. -/
def preamble : List String :=
  ["SET application_name to 'pgreport'", Report.createSchema, Report.setSearchPath] ++
    Report.extensions.map Report.createExtensionIfMissing ++ Report.helperObjects

theorem preamble_sendable : ∀ sql ∈ preamble, Sendable sql := by
  have opening : ∀ sql ∈ ["SET application_name to 'pgreport'", Report.createSchema,
      Report.setSearchPath], Sendable sql := by
    simp only [List.forall_mem_cons, List.not_mem_nil, false_implies, implies_true, and_true]
    exact ⟨.literal _ (by decide), .literal _ (by decide), .literal _ (by decide)⟩
  have names : ∀ name ∈ Report.extensions, Unbroken name := by decide +kernel
  intro sql member
  rcases List.mem_append.mp member with front | helper
  · rcases List.mem_append.mp front with early | extension
    · exact opening sql early
    · obtain ⟨name, among, rfl⟩ := List.mem_map.mp extension
      exact createExtensionIfMissing_sendable (names name among)
  · exact helperObjects_sendable sql helper

theorem setupLines_eq : setupLines = preamble.map terminated := by
  rw [setupLines, preamble, List.append_assoc, ← List.map_append]

/-! ## Sections -/

/-- What the script and a run announce a section with. -/
def announcement (database : String) : Report.Section → String
  | .heading title => "# " ++ Report.headingText title database
  | s => s.title

section

variable {release : Release} {database : String} {s : Report.Section}

/-- Headings have no query; all other sections of a plan have one. -/
theorem isSome_sql? (applies : s.applies release = true) :
    (s.sql? release).isSome = !s.isHeading := by
  unfold Report.Section.applies at applies
  cases s with
  | heading title => rfl
  | value label fragments => exact applies
  | table title fragments extension => exact applies

theorem Written.sendable (written : Written s) {sql : String} (found : s.sql? release = some sql) :
    Sendable sql := by
  obtain ⟨f, chosen, rfl⟩ := Option.map_eq_some_iff.mp found
  exact written.fragments f (List.mem_of_find?_eq_some chosen)

theorem Unbroken.announcement (written : Written s) (unbroken : Unbroken database) :
    Unbroken (announcement database s) := by
  cases s with
  | heading title =>
    refine Unbroken.append (.literal _ (by decide)) ?_
    unfold Report.headingText
    split
    · exact Unbroken.append (.literal _ (by decide)) unbroken
    · exact written.title.unbroken
  | value label fragments => exact written.title.unbroken
  | table title fragments extension => exact written.title.unbroken

/-- A section is announced in one line, and its query follows in another; a heading has none, and an
empty line follows instead. -/
theorem sectionLines_eq (applies : s.applies release = true) :
    sectionLines release database s = echo (announcement database s) ::
      (match s.sql? release with
        | some sql => [terminated sql]
        | none => [""]) := by
  have asked := isSome_sql? applies
  cases s with
  | heading title => rfl
  | value label fragments | table title fragments extension =>
    -- Where a section is no heading, that it applies means that it has a query.
    obtain ⟨sql, found⟩ := Option.isSome_iff_exists.mp asked
    simp only [sectionLines, found, Option.getD_some]
    rfl

end

/-- A section that applies and whose texts can stand in the script. -/
structure Fits (release : Release) (s : Report.Section) : Prop extends Written s where
  applies : s.applies release = true

/-! ## The script -/

/-- The lines of the script for some sections. -/
def scriptLines (release : Release) (database : String) (plan : List Report.Section) :
    List String :=
  banner release ++ preamble.map terminated ++ plan.flatMap (sectionLines release database) ++
    [terminated Report.dropSchema]

/-- The statements of the script. -/
def scripted (release : Release) (plan : List Report.Section) : List String :=
  preamble ++ plan.filterMap (fun s => s.sql? release) ++ [Report.dropSchema]

section

variable {release : Release} {database : String} {plan : List Report.Section}

theorem unbroken_echo {text : String} (h : Unbroken text) : Unbroken (echo text) :=
  Unbroken.append (.literal _ (by decide)) h

theorem unbroken_banner : ∀ line ∈ banner release, Unbroken line := by
  have title : Unbroken ("== pgreport SQL script for a " ++ release.text ++ " release ") :=
    (Unbroken.append (.literal _ (by decide)) (.release release)).append (.literal _ (by decide))
  have rule : Unbroken (repeated bannerWidth '=') := .literal _ (by decide)
  intro line member
  simp only [banner, List.mem_cons, List.not_mem_nil, or_false] at member
  rcases member with rfl | rfl | rfl
  · exact unbroken_echo rule
  · exact unbroken_echo (title.padRightWith (by decide))
  · exact unbroken_echo rule

theorem unbroken_sectionLines {s : Report.Section} (fits : Fits release s)
    (unbroken : Unbroken database) : ∀ line ∈ sectionLines release database s, Unbroken line := by
  rw [sectionLines_eq fits.applies]
  refine List.forall_mem_cons.mpr ⟨unbroken_echo (.announcement fits.toWritten unbroken), ?_⟩
  split
  · rename_i sql found
    exact List.forall_mem_singleton.mpr (fits.sendable found).terminated.unbroken
  · exact List.forall_mem_singleton.mpr (.literal _ (by decide))

theorem sendable_dropSchema : Sendable Report.dropSchema := .literal _ (by decide)

/-- The script has these lines, and what follows its last line feed is empty. -/
theorem linesOf_script (fits : ∀ s ∈ plan, Fits release s) (unbroken : Unbroken database) :
    linesOf (String.intercalate "\n" (scriptLines release database plan) ++ "\n") =
      scriptLines release database plan ++ [""] := by
  -- Behind the last line feed stands one more line, which is empty.
  have ended : String.intercalate "\n" (scriptLines release database plan) ++ "\n" =
      String.intercalate "\n" (scriptLines release database plan ++ [""]) := by
    rw [String.intercalate_append_of_ne_nil (by simp [scriptLines]) (by simp),
      String.intercalate_singleton, String.append_empty]
  rw [ended]
  refine linesOf_intercalate ?_ (by simp)
  intro line member
  simp only [scriptLines, List.mem_append, List.mem_singleton] at member
  rcases member with (((top | setup) | body) | rfl) | rfl
  · exact unbroken_banner line top
  · obtain ⟨sql, among, rfl⟩ := List.mem_map.mp setup
    exact (preamble_sendable sql among).terminated.unbroken
  · obtain ⟨s, among, line⟩ := List.mem_flatMap.mp body
    exact unbroken_sectionLines (fits s among) unbroken _ line
  · exact sendable_dropSchema.terminated.unbroken
  · exact .literal _ (by decide)

/-! ## Statements and announcements -/

theorem isStatement_terminated {sql : String} (h : Sendable sql) :
    isStatement (terminated sql) = true := by
  rw [isStatement, isBlankLine_terminated, h.terminated.isEcho]
  rfl

theorem isStatement_echo (text : String) : isStatement (echo text) = false := by
  rw [isStatement, isEcho_echo, Bool.not_true, Bool.and_false]

theorem statements_terminated {sqls : List String} (h : ∀ sql ∈ sqls, Sendable sql) :
    (sqls.map terminated).filter isStatement = sqls.map terminated := by
  rw [List.filter_eq_self]
  intro line member
  obtain ⟨sql, among, rfl⟩ := List.mem_map.mp member
  exact isStatement_terminated (h sql among)

theorem echoes_terminated {sqls : List String} (h : ∀ sql ∈ sqls, Sendable sql) :
    (sqls.map terminated).filter isEcho = [] := by
  rw [List.filter_eq_nil_iff]
  intro line member
  obtain ⟨sql, among, rfl⟩ := List.mem_map.mp member
  rw [(h sql among).terminated.isEcho]
  exact Bool.false_ne_true

theorem statements_banner : (banner release).filter isStatement = [] := by
  simp only [banner, List.filter_cons, isStatement_echo, Bool.false_eq_true, if_false,
    List.filter_nil]

theorem echoes_banner : (banner release).filter isEcho = banner release := by
  simp only [banner, List.filter_cons, isEcho_echo, if_true, List.filter_nil]

/-- Of the lines of a section its query is sent, and nothing else. -/
theorem statements_section {s : Report.Section} (fits : Fits release s) :
    (sectionLines release database s).filter isStatement =
      (s.sql? release).toList.map terminated := by
  rw [sectionLines_eq fits.applies, List.filter_cons, isStatement_echo]
  cases found : s.sql? release with
  | none => rfl
  | some sql =>
    have sent := isStatement_terminated (fits.sendable found)
    simp only [List.filter_cons, sent, Bool.false_eq_true, if_false, if_true, List.filter_nil,
      Option.toList_some, List.map_cons, List.map_nil]

/-- Of the lines of a section one prints something: its announcement. -/
theorem echoes_section {s : Report.Section} (fits : Fits release s) :
    (sectionLines release database s).filter isEcho = [echo (announcement database s)] := by
  rw [sectionLines_eq fits.applies, List.filter_cons, isEcho_echo]
  cases found : s.sql? release with
  | none => rfl
  | some sql =>
    have sent := (fits.sendable found).terminated.isEcho
    simp only [List.filter_cons, sent, Bool.false_eq_true, if_false, if_true, List.filter_nil]

/-- What is picked from the lines of sections is picked from those of each. -/
theorem filter_sections {p : String → Bool} {own : Report.Section → List String}
    (each : ∀ s ∈ plan, (sectionLines release database s).filter p = own s) :
    (plan.flatMap (sectionLines release database)).filter p = plan.flatMap own := by
  induction plan with
  | nil => rfl
  | cons s rest ih =>
    have others := ih fun s member => each s (List.mem_cons_of_mem _ member)
    rw [List.flatMap_cons, List.filter_append, each s List.mem_cons_self, others, List.flatMap_cons]

theorem statements_sections (fits : ∀ s ∈ plan, Fits release s) :
    (plan.flatMap (sectionLines release database)).filter isStatement =
      (plan.filterMap fun s => s.sql? release).map terminated := by
  rw [filter_sections fun s member => statements_section (fits s member)]
  clear fits
  induction plan with
  | nil => rfl
  | cons s rest ih =>
    rw [List.flatMap_cons, ih, List.filterMap_cons]
    cases s.sql? release with
    | none => rfl
    | some sql => rfl

theorem echoes_sections (fits : ∀ s ∈ plan, Fits release s) :
    (plan.flatMap (sectionLines release database)).filter isEcho =
      plan.map fun s => echo (announcement database s) := by
  rw [filter_sections fun s member => echoes_section (fits s member), List.map_eq_flatMap]

/-- What the lines of a script are joined to. -/
def scriptText (release : Release) (database : String) (plan : List Report.Section) : String :=
  String.intercalate "\n" (scriptLines release database plan) ++ "\n"

/-- The statements of a script, each ended by a semicolon, are all of its lines but those that print
something and those with nothing to see. -/
theorem statementLines_scriptText (fits : ∀ s ∈ plan, Fits release s)
    (unbroken : Unbroken database) :
    statementLines (scriptText release database plan) = (scripted release plan).map terminated := by
  have last : (terminated Report.dropSchema :: [""]).filter isStatement =
      [terminated Report.dropSchema] := by
    rw [List.filter_cons, isStatement_terminated sendable_dropSchema]
    rfl
  rw [statementLines, scriptText, linesOf_script fits unbroken]
  simp only [scriptLines, scripted, List.append_assoc, List.singleton_append, List.filter_append,
    statements_banner, statements_terminated preamble_sendable,
    statements_sections fits, last, List.map_append, List.nil_append, List.map_cons,
    List.map_nil]

/-- A script prints its banner and the announcements of its sections. -/
theorem echoLines_scriptText (fits : ∀ s ∈ plan, Fits release s) (unbroken : Unbroken database) :
    echoLines (scriptText release database plan) =
      banner release ++ plan.map fun s => echo (announcement database s) := by
  have last : (terminated Report.dropSchema :: [""]).filter isEcho = [] := by
    rw [List.filter_cons, sendable_dropSchema.terminated.isEcho]
    rfl
  rw [echoLines, scriptText, linesOf_script fits unbroken]
  simp only [scriptLines, List.append_assoc, List.singleton_append, List.filter_append,
    echoes_banner, echoes_terminated preamble_sendable, echoes_sections fits, last,
    List.nil_append, List.append_nil]

end

/-! ## Plans -/

/-- Titles can be the members of a set. -/
theorem members_titles (titles : List String) :
    (Value.list (titles.map Value.text)).members = .ok (titles.map Value.text) := by
  have keys : (titles.map Value.text).all Value.isKey = true := by
    rw [List.all_map, List.all_eq_true]
    intro title _
    rfl
  show (if (titles.map Value.text).all Value.isKey then _ else _) = _
  rw [if_pos keys]
  rfl

/-- What the titles of sections leave of the report on a server of a release. -/
def planned (release : Release) (titles : List String) : List Report.Section :=
  Report.plan release (titles.map Value.text) Report.sections

section

variable {release : Release} {titles : List String} {s : Report.Section}

theorem mem_sections_of_planned (h : s ∈ planned release titles) : s ∈ Report.sections :=
  (List.mem_filter.mp h).1

/-- All sections of a plan can stand in the script. -/
theorem fits_of_planned (h : s ∈ planned release titles) : Fits release s :=
  ⟨sections_written s (mem_sections_of_planned h),
    (Bool.and_eq_true_iff.mp (List.mem_filter.mp h).2).1⟩

theorem script_eq (release : Release) (database : String) (titles : List String) :
    script release database (.list (titles.map Value.text)) =
      .ok (scriptText release database (planned release titles)) := by
  rw [script, members_titles, setupLines_eq]
  rfl

end

end PgVitals.Report
