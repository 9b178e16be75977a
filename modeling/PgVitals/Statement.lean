import PgVitals.Value
/-!
# Statements

What is sent to a server: the text of a statement, and the values bound to its placeholders. Values
are never written into the text.
-/

namespace PgVitals

/-- The values bound to the placeholders of a statement. -/
inductive Params where
  | none
  /-- In the order of the placeholders. -/
  | positional (values : List Value)
  /-- By the names of the placeholders. -/
  | named (values : List (String × Value))
deriving Inhabited

/-- A statement with the values bound to it. -/
structure Statement where
  sql : String
  params : Params
deriving Inhabited

/-- A statement without placeholders. -/
def Statement.plain (sql : String) : Statement := ⟨sql, .none⟩

/-- What a query returned: the names of its columns and its rows. -/
structure ResultSet where
  columns : List String
  rows : List (List Value)
deriving Inhabited

/-- What a statement without a result returns. -/
def ResultSet.empty : ResultSet := ⟨[], []⟩

end PgVitals
