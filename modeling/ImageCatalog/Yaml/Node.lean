/-!
# Nodes

A YAML document as a tree. An alias stands for the node of an anchor; `Node.expand?` puts the nodes
in place of their aliases.
-/

namespace ImageCatalog.Yaml

/-- A scalar as it is written. -/
structure Scalar where
  text : String
  /-- Whether it is written without quotes, and so may stand for something else than a text. -/
  isPlain : Bool
  tag : Option String
deriving DecidableEq, Repr

/-- A node of a document. -/
inductive Node where
  | scalar (s : Scalar)
  | sequence (tag : Option String) (items : List Node)
  | mapping (tag : Option String) (entries : List (Node × Node))
  | alias (id : Nat)
deriving Inhabited

namespace Node

/-- A node without anything. -/
def emptyScalar (tag : Option String) : Node :=
  .scalar ⟨"", true, tag⟩

/-- The nodes behind aliases: of nodes with one number the latest in the document counts. -/
abbrev Anchors := List (Nat × Node)

mutual

/-- How many events make up a node: two for a collection and one for every other node. -/
def weight : Node → Nat
  | .scalar _ | .alias _ => 1
  | .sequence _ items => 2 + itemsWeight items
  | .mapping _ entries => 2 + entriesWeight entries

def itemsWeight : List Node → Nat
  | [] => 0
  | n :: rest => n.weight + itemsWeight rest

def entriesWeight : List (Node × Node) → Nat
  | [] => 0
  | (k, v) :: rest => k.weight + v.weight + entriesWeight rest

end

/-- Puts nodes in place of aliases. The state counts how many aliases may still be followed; a
document that nests deeper than `depth` is refused, as is one with an alias within its own
anchor. -/
def expandWithin (anchors : Anchors) : (depth : Nat) → Node → StateT Nat Option Node
  | 0, _ => fun _ => none
  | _ + 1, .scalar s => pure (.scalar s)
  | depth + 1, .sequence tag items => do
    return .sequence tag (← items.mapM (expandWithin anchors depth))
  | depth + 1, .mapping tag entries => do
    let entries ← entries.mapM fun (k, v) => do
      return (← expandWithin anchors depth k, ← expandWithin anchors depth v)
    return .mapping tag entries
  | depth + 1, .alias id => fun
    | 0 => none
    | budget + 1 =>
      match anchors.lookup id with
      | some n => expandWithin anchors depth n budget
      | none => none

/-- How deep a document may nest, aliases included. -/
def maxDepth : Nat := 256

/-- Puts nodes in place of aliases. At most a hundred aliases for each event of the document are
followed. -/
def expand? (anchors : Anchors) (n : Node) : Option Node :=
  ((expandWithin anchors maxDepth n).run (100 * n.weight)).map Prod.fst

end Node

end ImageCatalog.Yaml
