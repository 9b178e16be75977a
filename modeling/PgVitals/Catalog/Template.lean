import PgVitals.Catalog.Column
import PgVitals.Failure
import PgVitals.Statement
import PgVitals.Text.Split
/-!
# Query templates

A template describes the query on one domain for all releases at once. Rendering it for a release
picks the fragments that apply. The object a user asks for never becomes part of the text: it is
bound to the placeholder `filter`.

* `Template` has the columns, the sources, the conditions and the order, and which column a filter
  is compared with.
* `Template.render` makes a statement of it. A release that is too low is refused before anything
  else, and a filter is bound; percent signs that were in the text before are doubled then.
* `Template.selectList` and `Template.columnNames` are the two sides of the select list. A column
  without a fragment for the release is left out of both, unless a literal stands in for it.

Templates are data. Whoever changes a query changes a list of columns, and what is proved about
rendering is proved of all templates at once.
-/

namespace PgVitals.Catalog

open PgVitals.Text

/-- A query on one domain. -/
structure Template where
  domain : Domain
  name : String
  columns : List Column
  sources : List Fragment
  since : Release := Release.always
  conditions : List Fragment := []
  /-- The column compared with the filter. -/
  filterColumn : Option String := none
  orderBy : String := ""
  /-- Selected in place of a column the release does not have. -/
  missing : Option String := none
  /-- Whether rows begin with the time of capture. -/
  timestamp : Bool := false
deriving Inhabited

/-- The time of capture, to the second. -/
def captureTime : String := "date_trunc('seconds', now())"

/-- The name servers give to the time of capture. -/
def captureName : String := "date_trunc"

/-- Asks whether the extension that collects statements is installed. -/
def statementsInstalledQuery : String :=
  "SELECT 1 FROM pg_proc p, pg_namespace n WHERE p.proname = 'pg_stat_statements' AND " ++
    "p.pronamespace = n.oid"

/-- The placeholder of the filter. -/
def filterPlaceholder : String := "%(filter)s"

/-- Percent signs doubled, as they have to be where placeholders are expanded. -/
def doublePercent (s : String) : String := replaceChar '%' ['%', '%'] s

namespace Template

/-- Whether a server of this release has the statistics. -/
def supports (t : Template) (release : Release) : Bool := release.atLeast t.since

/-- How failures name the domain. -/
def feature (t : Template) : String := "the " ++ t.domain.name ++ " statistic"

/-- Fails on a release that does not have the statistics. -/
def require (t : Template) (release : Release) : Except Failure Unit :=
  if t.supports release then .ok () else .error (.releaseTooLow t.feature t.since)

/-- The items of the select list. -/
def selectList (t : Template) (release : Release) : List String :=
  let items := t.columns.filterMap fun c => c.item? t.missing release
  if t.timestamp then captureTime :: items else items

/-- The names of the columns the query returns. -/
def columnNames (t : Template) (release : Release) : List String :=
  let names := (t.columns.filter fun c => (c.item? t.missing release).isSome).map Column.name
  if t.timestamp then captureName :: names else names

/-- What the query reads from. -/
def source (t : Template) (release : Release) : Except Failure String :=
  match applicable? t.sources release with
  | some fragment => .ok fragment.sql
  | none =>
    match t.sources.getLast? with
    | some fragment => .error (.releaseTooLow t.feature fragment.since)
    | none => .error (.fault .missingItem)

/-- The conditions that apply. -/
def conditionsFor (t : Template) (release : Release) : List String :=
  (t.conditions.filter fun c => c.applies release).map Fragment.sql

/-- The select list and the source. -/
def head (t : Template) (release : Release) (source : String) : String :=
  let select := "SELECT " ++ String.intercalate ", " (t.selectList release)
  if source.isEmpty then select else select ++ " FROM " ++ source

/-- The conditions joined by `AND`. -/
def whereClause (conditions : List String) : String :=
  if conditions.isEmpty then "" else " WHERE " ++ String.intercalate " AND " conditions

/-- The order of the rows. -/
def orderClause (t : Template) : String :=
  if t.orderBy.isEmpty then "" else " ORDER BY " ++ t.orderBy

/-- The column to compare with the filter, where there is one. -/
def filterColumn? (t : Template) : Option String := t.filterColumn.filter fun c => !c.isEmpty

/-- The statement for a release, and for the objects the filter names; null is no filter. -/
def render (t : Template) (release : Release) (filter : Value) :
    Except Failure Statement := do
  t.require release
  let source ← t.source release
  let head := t.head release source
  let conditions := t.conditionsFor release
  match filter, t.filterColumn? with
  | .null, _ | _, none => return ⟨head ++ whereClause conditions ++ t.orderClause, .none⟩
  | wanted, some column =>
    let bound := conditions.map doublePercent ++ [column ++ " = " ++ filterPlaceholder]
    return ⟨doublePercent head ++ whereClause bound ++ t.orderClause,
      .named [("filter", wanted)]⟩

end Template

end PgVitals.Catalog
