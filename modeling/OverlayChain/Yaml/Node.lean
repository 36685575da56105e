import OverlayChain.Yaml.Token

/-!
# Nodes of a document

## Main definitions

- `Yaml.Node`: scalars, sequences, mappings and aliases.
- `Yaml.Document`: a root node, and the nodes that aliases stand for.
- `Yaml.Document.resolve`: what an alias stands for.
-/

namespace OverlayChain.Yaml

/-- A node of a document. -/
inductive Node where
  /-- A text; a plain one was written without quotes. -/
  | scalar (text : List Char) (tag : Option (List Char)) (plain : Bool)
  | sequence (items : List Node)
  | mapping (pairs : List (Node × Node))
  /-- An alias for the node in a slot. -/
  | alias (slot : Nat)

namespace Node

/-- The scalar that stands where nothing was written. -/
def empty : Node := .scalar [] none true

end Node

/-- An anchored node: its slot, when it was anchored, and the node. -/
structure Anchored where
  slot : Nat
  order : Nat
  node : Node

/-- A root node, and the nodes that aliases stand for. -/
structure Document where
  root : Node
  anchored : List Anchored

namespace Document

/-- The node in a slot: the one that was anchored there last. -/
def inSlot? (doc : Document) (slot : Nat) : Option Node :=
  let candidates := doc.anchored.filter fun entry => entry.slot == slot
  let last := candidates.foldl (fun best entry =>
    match best with
    | none => some entry
    | some found => if found.order < entry.order then some entry else best) none
  last.map Anchored.node

/-- The node itself, or what it stands for if it is an alias. -/
def resolve (doc : Document) (node : Node) : Node :=
  match node with
  | .alias slot => (doc.inSlot? slot).getD node
  | _ => node

end Document

end OverlayChain.Yaml
