/-!
# Tokens

The pieces of a YAML text. Indentation is turned into starts and ends of blocks, so that the order
of the tokens alone tells the structure.
-/

namespace PgVitals.Yaml

/-- A line that starts with a percent sign. -/
inductive Directive where
  | version (major : Nat)
  /-- A short name for the start of tags. -/
  | handle (handle expansion : String)
  | other
deriving DecidableEq

/-- A piece of a text. -/
inductive Token where
  | directive (directive : Directive)
  | documentStart
  | documentEnd
  | blockSequence
  | blockMapping
  | blockEnd
  | flowSequence
  | flowSequenceEnd
  | flowMapping
  | flowMappingEnd
  /-- The hyphen in front of an item. -/
  | item
  /-- The comma between items. -/
  | comma
  | key
  | value
  | reference (name : String)
  | anchor (name : String)
  /-- A tag, with its handle where it has one. -/
  | tag (handle : Option String) (suffix : String)
  | scalar (text : String) (isPlain : Bool)
  | finish
deriving DecidableEq

end PgVitals.Yaml
