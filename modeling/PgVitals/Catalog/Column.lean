import PgVitals.Catalog.Fragment
/-!
# Columns

An output column of a query and the expressions that yield it on different releases.
-/

namespace PgVitals.Catalog

/-- An output column. -/
structure Column where
  name : String
  fragments : List Fragment
deriving DecidableEq, Inhabited

namespace Column

/-- An expression under the name of a column; an expression that is the name stands alone. -/
def named (sql name : String) : String := if sql == name then name else sql ++ " AS " ++ name

/-- The item of the select list for a release. Without a fragment that applies it is the literal
`missing` under the column's name, or nothing where there is no such literal. -/
def item? (c : Column) (missing : Option String) (release : Release) : Option String :=
  match applicable? c.fragments release with
  | some fragment => some (named fragment.sql c.name)
  | none => missing.map fun literal => literal ++ " AS " ++ c.name

/-- A column that is an expression from a release on; an empty expression means the name. -/
def computedSince (since : Release) (name sql : String) : Column :=
  ⟨name, [⟨if sql.isEmpty then name else sql, since, none⟩]⟩

/-- A column that is an expression. -/
def computed (name sql : String) : Column := computedSince .always name sql

/-- A column that the server has from a release on. -/
def since (release : Release) (name : String) : Column := computedSince release name name

/-- A column that every server has. -/
def plain (name : String) : Column := since .always name

/-- A column that the server has from a release on, up to another. -/
def between (first last : Release) (name sql : String) : Column :=
  ⟨name, [⟨sql, first, some last⟩]⟩

/-- A column with one expression for each range of releases, newest first. -/
def variants (name : String) (choices : List (Release × String)) : Column :=
  ⟨name, choices.map fun choice => ⟨choice.2, choice.1, none⟩⟩

/-- Whatever columns there are. -/
def star : Column := ⟨"*", [⟨"*", .always, none⟩]⟩

end Column

end PgVitals.Catalog
