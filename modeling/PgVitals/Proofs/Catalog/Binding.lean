import PgVitals.Catalog.Monitor
import PgVitals.Catalog.Snapshot
import PgVitals.Proofs.Catalog.Rendering
/-!
# Filters are bound

A driver that binds values to a statement reads its text: two percent signs stand for one, a
placeholder for the value of its name, and any other percent sign is an error. A statement with a
filter is written for such a driver. What it reads is the statement without the filter and one
condition more, in which the only placeholder stands; the filter itself is no part of the text.

* `pieces` is how a driver reads a text, and `expand` the text it sends. Both follow the
  documentation of the driver, and are written apart from the templates.
* `pieces_doubled` says that doubled percent signs are read as the text they were doubled in,
  character by character, whatever that text is.
* `pieces_bound` and `expand_bound` are about the text around the one placeholder.
* `whereClause_append` says that one more condition is the last one, and `assembled_bound` where the
  placeholder stands then.
* `SignFree` is what a template has to be like: what is written behind the doubled part has no
  percent signs of its own. `templates_signFree` goes through those of the program.

How a driver writes a value is a parameter, so nothing here depends on how values are quoted. A text
that a driver would reject has no `pieces`; those of the templates have.
-/

namespace PgVitals.Catalog

open PgVitals.Text

/-! ## How a driver reads a statement -/

/-- What a statement is made of when values are bound to it. -/
inductive Piece where
  | character (c : Char)
  | placeholder (name : String)
deriving DecidableEq

/-- Where one is in the text of a statement. -/
inductive Place where
  | text
  /-- Behind a percent sign. -/
  | percent
  /-- In the name of a placeholder. -/
  | name (read : List Char)
  /-- Behind the parenthesis that closes a name. -/
  | named (name : List Char)

/-- The pieces of a text, unless a percent sign begins nothing that is known. -/
def pieces : Place → List Char → Option (List Piece)
  | .text, [] => some []
  | .text, c :: rest =>
    if c = '%' then pieces .percent rest else (.character c :: ·) <$> pieces .text rest
  | .percent, c :: rest =>
    if c = '%' then (.character '%' :: ·) <$> pieces .text rest
    else if c = '(' then pieces (.name []) rest
    else none
  | .name read, c :: rest =>
    if c = ')' then pieces (.named read) rest else pieces (.name (read ++ [c])) rest
  | .named name, c :: rest =>
    if c = 's' then (.placeholder (String.ofList name) :: ·) <$> pieces .text rest else none
  | .percent, [] | .name _, [] | .named _, [] => none

/-- The text of a piece; `literal` is how the driver writes a value. -/
def Piece.expanded (literal : Value → String) (values : List (String × Value)) :
    Piece → Option (List Char)
  | character c => some [c]
  | placeholder name => (values.lookup name).map fun v => (literal v).toList

/-- The text that is sent, with the values in place of the placeholders. -/
def expand (literal : Value → String) (values : List (String × Value)) (sql : String) :
    Option String := do
  let found ← pieces .text sql.toList
  let parts ← found.mapM (Piece.expanded literal values)
  return String.ofList parts.flatten

/-! ## Percent signs -/

/-- A percent sign twice, any other character once. -/
def doubled (c : Char) : List Char := if c == '%' then ['%', '%'] else [c]

theorem toList_doublePercent (s : String) : (doublePercent s).toList = s.toList.flatMap doubled :=
  String.toList_ofList

theorem doublePercent_append (a b : String) :
    doublePercent (a ++ b) = doublePercent a ++ doublePercent b := by
  rw [← String.toList_inj]
  simp only [toList_doublePercent, String.toList_append, List.flatMap_append]

/-- A text without percent signs stays as it is. -/
theorem doublePercent_eq_self {s : String} (h : '%' ∉ s.toList) : doublePercent s = s := by
  rw [← String.toList_inj, toList_doublePercent]
  have single : ∀ c ∈ s.toList, doubled c = [c] := by
    intro c member
    have other : (c == '%') = false := by
      rw [beq_eq_false_iff_ne]
      rintro rfl
      exact h member
    rw [doubled, other]
    rfl
  rw [List.flatMap_congr single, List.flatMap_singleton']

theorem doublePercent_intercalate (separator : String) (parts : List String) :
    doublePercent (separator.intercalate parts) =
      (doublePercent separator).intercalate (parts.map doublePercent) := by
  induction parts with
  | nil => rfl
  | cons part parts ih =>
    cases parts with
    | nil => simp
    | cons next parts =>
      rw [String.intercalate_cons_cons, doublePercent_append, doublePercent_append, ih]
      simp only [List.map_cons, String.intercalate_cons_cons]

/-- Doubled percent signs are read as the text they were doubled in. -/
theorem pieces_doubled (cs rest : List Char) :
    pieces .text (cs.flatMap doubled ++ rest) =
      (cs.map Piece.character ++ ·) <$> pieces .text rest := by
  induction cs with
  | nil => simp
  | cons c cs ih =>
    rw [List.flatMap_cons, List.append_assoc]
    by_cases percent : c = '%'
    · subst percent
      show (Piece.character '%' :: ·) <$> pieces .text (cs.flatMap doubled ++ rest) = _
      rw [ih]
      cases pieces .text rest <;> rfl
    · have single : doubled c = [c] := by simp [doubled, percent]
      rw [single, List.singleton_append, pieces, if_neg percent, ih]
      cases pieces .text rest <;> rfl

theorem pieces_of_no_percent {s : String} (h : '%' ∉ s.toList) :
    pieces .text s.toList = some (s.toList.map Piece.character) := by
  have read := pieces_doubled s.toList []
  rw [← toList_doublePercent, doublePercent_eq_self h, List.append_nil] at read
  simpa [pieces] using read

theorem pieces_filterPlaceholder (rest : List Char) :
    pieces .text (filterPlaceholder.toList ++ rest) =
      (Piece.placeholder "filter" :: ·) <$> pieces .text rest := rfl

/-- Around the placeholder of the filter there are characters only. -/
theorem pieces_bound (before : String) {after : String} (plain : '%' ∉ after.toList) :
    pieces .text (doublePercent before ++ filterPlaceholder ++ after).toList =
      some (before.toList.map .character ++ .placeholder "filter" ::
        after.toList.map .character) := by
  rw [String.toList_append, String.toList_append, toList_doublePercent, List.append_assoc,
    pieces_doubled, pieces_filterPlaceholder, pieces_of_no_percent plain]
  rfl

section

variable (literal : Value → String) (values : List (String × Value))

theorem expanded_characters (cs : List Char) :
    (cs.map Piece.character).mapM (Piece.expanded literal values) =
      some (cs.map fun c => [c]) := by
  induction cs with
  | nil => rfl
  | cons c cs ih =>
    rw [List.map_cons, List.mapM_cons, ih]
    rfl

/-- What is sent has the value in place of the placeholder, and around it the text in which the
percent signs were doubled. -/
theorem expand_bound (v : Value) (before : String) {after : String}
    (plain : '%' ∉ after.toList) :
    expand literal [("filter", v)] (doublePercent before ++ filterPlaceholder ++ after) =
      some (before ++ literal v ++ after) := by
  have filled : Piece.expanded literal [("filter", v)] (.placeholder "filter") =
      some (literal v).toList := rfl
  have joined (cs : List Char) : (cs.map fun c => [c]).flatten = cs := by
    rw [← List.flatMap_def, List.flatMap_singleton']
  rw [expand, pieces_bound before plain]
  simp only [Option.bind_eq_bind, Option.bind_some, List.mapM_append, List.mapM_cons,
    expanded_characters, filled, Option.pure_def, Option.some.injEq]
  rw [← String.toList_inj]
  simp only [String.toList_ofList, String.toList_append, List.flatten_append, List.flatten_cons,
    joined, List.append_assoc]

end

namespace Template

/-! ## Conditions -/

/-- What stands in front of one more condition. -/
def lead (conditions : List String) : String :=
  if conditions.isEmpty then " WHERE "
  else " WHERE " ++ " AND ".intercalate conditions ++ " AND "

/-- One more condition is the last one. -/
theorem whereClause_append (conditions : List String) (last : String) :
    whereClause (conditions ++ [last]) = lead conditions ++ last := by
  cases conditions with
  | nil => simp [whereClause, lead]
  | cons condition conditions =>
    have some : (condition :: conditions ++ [last]).isEmpty = false := rfl
    rw [whereClause, some, String.intercalate_append_of_ne_nil (by simp) (by simp)]
    simp [lead, String.append_assoc]

theorem doublePercent_lead (conditions : List String) :
    doublePercent (lead conditions) = lead (conditions.map doublePercent) := by
  have start : doublePercent " WHERE " = " WHERE " := doublePercent_eq_self (by decide)
  have joint : doublePercent " AND " = " AND " := doublePercent_eq_self (by decide)
  unfold lead
  rw [List.isEmpty_map]
  split
  · exact start
  · rw [doublePercent_append, doublePercent_append, doublePercent_intercalate, start, joint]

/-! ## Filters -/

variable {t : Template} {release : Release} {source column : String}

/-- The text around the placeholder: the rest of the statement with its percent signs doubled in
front of it, and the order of the rows behind it. -/
theorem assembled_bound (head : String) (conditions : List String)
    (plain : '%' ∉ column.toList) :
    t.assembled (doublePercent head)
        (conditions.map doublePercent ++ [column ++ " = " ++ filterPlaceholder]) =
      doublePercent (head ++ lead conditions ++ column ++ " = ") ++ filterPlaceholder ++
        t.orderClause := by
  have equals : doublePercent " = " = " = " := doublePercent_eq_self (by decide)
  simp only [assembled, whereClause_append, doublePercent_append, doublePercent_lead,
    doublePercent_eq_self plain, equals, String.append_assoc]

theorem orderClause_plain (plain : '%' ∉ t.orderBy.toList) : '%' ∉ t.orderClause.toList := by
  unfold orderClause
  split
  · simp
  · have start : '%' ∉ " ORDER BY ".toList := by decide
    rw [String.toList_append, List.mem_append, not_or]
    exact ⟨start, plain⟩

/-- What is written behind doubled percent signs has no percent signs of its own. -/
structure SignFree (t : Template) : Prop where
  column : ∀ column ∈ t.filterColumn?, '%' ∉ column.toList
  order : '%' ∉ t.orderBy.toList

instance (t : Template) : Decidable t.SignFree :=
  decidable_of_iff
    ((∀ column ∈ t.filterColumn?, '%' ∉ column.toList) ∧ '%' ∉ t.orderBy.toList)
    ⟨fun h => ⟨h.1, h.2⟩, fun h => ⟨h.column, h.order⟩⟩

theorem templates_signFree : ∀ t ∈ Monitor.templates ++ Snapshot.templates, t.SignFree := by
  decide +kernel

/-- **Filters are bound, never written into the text.** Without a filter, or without a column to
compare with it, nothing is bound and the parts of the statement are as they are written. With a
filter the text does not depend on it: the filter is bound under its name, the text has a single
placeholder, and what a driver sends is the statement without a filter with one last condition that
compares the column with the value. Every template of the program has the form this needs. -/
theorem filter_bound :
    (∀ t ∈ Monitor.templates ++ Snapshot.templates, t.SignFree) ∧
    ∀ (t : Template) release unfiltered, t.render release .null = .ok unfiltered →
      ∃ source, t.source release = .ok source ∧
        unfiltered = ⟨t.assembled (t.head release source) (t.conditionsFor release), .none⟩ ∧
        (t.filterColumn? = none → ∀ filter, t.render release filter = .ok unfiltered) ∧
        ∀ column, t.filterColumn? = some column → t.SignFree → ∃ sql,
          (∀ f, t.render release (.text f) = .ok ⟨sql, .named [("filter", .text f)]⟩) ∧
          (∃ before after : List Char, pieces .text sql.toList =
            some (before.map .character ++ .placeholder "filter" :: after.map .character)) ∧
          ∀ literal f, expand literal [("filter", .text f)] sql =
            some (t.assembled (t.head release source)
              (t.conditionsFor release ++ [column ++ " = " ++ literal (.text f)])) := by
  refine ⟨templates_signFree, ?_⟩
  intro t release unfiltered rendered
  obtain ⟨since, source, read⟩ := exists_source_of_render rendered
  have parts := render_null since read
  refine ⟨source, read, ?_, ?_, ?_⟩
  · exact Except.ok.inj (rendered.symm.trans parts)
  · intro none filter
    rw [render_of_no_column none, rendered]
  · intro column some free
    have ordered := orderClause_plain free.order
    have named := free.column column some
    -- The text is cut at the placeholder.
    refine ⟨_, render_filter since read some, ?_⟩
    rw [assembled_bound _ _ named]
    refine ⟨⟨_, _, pieces_bound _ ordered⟩, ?_⟩
    intro literal f
    rw [expand_bound _ _ _ ordered]
    simp only [assembled, whereClause_append, String.append_assoc]

/-- A template whose texts have percent signs, one of them in what looks like a placeholder. -/
def percentages : Template where
  domain := .database
  name := "percentages"
  columns := [.computed "a" "a LIKE 'pg_%'"]
  sources := [⟨"pg_stat_database", .always, none⟩]
  conditions := [⟨"b <> '%(filter)s'", .always, none⟩]
  filterColumn := some "datname"
  orderBy := "a"

/-- The statement for release 16 with a filter. -/
def percentagesFiltered : String :=
  "SELECT a LIKE 'pg_%%' AS a FROM pg_stat_database WHERE b <> '%%(filter)s' AND " ++
    "datname = %(filter)s ORDER BY a"

theorem filter_bound_percentages :
    percentages.SignFree ∧
    (∀ f, percentages.render ⟨16, 0⟩ (.text f) =
      .ok ⟨percentagesFiltered, .named [("filter", .text f)]⟩) ∧
    expand (fun v => "'" ++ v.shown ++ "'") [("filter", .text "50%s")] percentagesFiltered =
      some ("SELECT a LIKE 'pg_%' AS a FROM pg_stat_database WHERE b <> '%(filter)s' AND " ++
        "datname = '50%s' ORDER BY a") := by
  have free : percentages.SignFree := by decide
  have unfiltered : percentages.render ⟨16, 0⟩ .null = .ok
      ⟨"SELECT a LIKE 'pg_%' AS a FROM pg_stat_database WHERE b <> '%(filter)s' ORDER BY a",
        .none⟩ := rfl
  have written : percentages.render ⟨16, 0⟩ (.text "") =
    .ok ⟨percentagesFiltered, .named [("filter", .text "")]⟩ := rfl
  obtain ⟨source, read, -, -, filtered⟩ := filter_bound.2 _ _ _ unfiltered
  obtain ⟨sql, rendered, -, expanded⟩ := filtered "datname" rfl free
  obtain ⟨rfl, -⟩ := Statement.mk.inj (Except.ok.inj ((rendered "").symm.trans written))
  cases read
  refine ⟨free, rendered, ?_⟩
  rw [expanded]
  rfl

end Template

end PgVitals.Catalog
