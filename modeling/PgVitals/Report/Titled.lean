import PgVitals.Statement
import PgVitals.Table.Ruled
/-!
# Titled tables

A table of the report has its title in the middle above it.
-/

namespace PgVitals.Report

open PgVitals.Text

/-- A table under its title, and an end of line after it. -/
def titledTable (title : String) (set : ResultSet) : Except Fault String := do
  let body ← Table.render Table.dashed set.columns set.rows
  let width := match lines body with
    | [] => width title
    | l :: rest => (rest.map width).foldl max (width l)
  return trimEnd (center ' ' title width) ++ "\n" ++ body ++ "\n"

end PgVitals.Report
