import PgVitals.Yaml.Schema
/-!
# Nodes

The parts of a document are nodes, each known by a number: scalars, and collections that hold the
numbers of their parts. A node can therefore stand in many places, even within itself.
-/

namespace PgVitals.Yaml

/-- What a node holds. -/
inductive Content where
  | scalar (text : String)
  | sequence (items : List Nat)
  | mapping (entries : List (Nat × Nat))

/-- A part of a document. -/
structure Node where
  tag : Tag
  content : Content

/-- An empty plain text. -/
def Node.empty : Node := ⟨.null, .scalar ""⟩

/-- The nodes of a document, by number. -/
abbrev Nodes := Array Node

namespace Nodes

/-- The node of a number. -/
def node (ns : Nodes) (id : Nat) : Node := ns[id]?.getD .empty

/-- Gives a node another content. -/
def fill (ns : Nodes) (id : Nat) (content : Content) : Nodes :=
  ns.modify id fun n => { n with content := content }

/-- Gives a node another tag. -/
def retag (ns : Nodes) (id : Nat) (tag : Tag) : Nodes :=
  ns.modify id fun n => { n with tag := tag }

/-- The entries of a mapping. -/
def entries? (ns : Nodes) (id : Nat) : Option (List (Nat × Nat)) :=
  match (ns.node id).content with
  | .mapping entries => some entries
  | _ => none

/-- The number of all entries of mappings. -/
def entryCount (ns : Nodes) : Nat :=
  ns.foldl (fun n node =>
    match node.content with
    | .mapping entries => n + entries.length
    | _ => n) 0

end Nodes

/-- The only document of a text: its nodes, and the number of the node around all others. -/
structure Document where
  nodes : Nodes
  root : Nat

end PgVitals.Yaml
