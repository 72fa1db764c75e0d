import Rollout.Yaml.Token

/-!
The node tree of a YAML document. An alias stays a reference, because the node it names may
contain it; the anchors of a document say which node each reference leads to.
-/

namespace Rollout.Yaml

inductive Node where
  | scalar (style : Style) (tag : Option String) (text : String)
  | sequence (items : List Node)
  | mapping (entries : List (Node × Node))
  /-- A reference to the node of an anchor. -/
  | alias (target : Nat)
deriving Repr

namespace Node

/-- What stands where a document or an entry has nothing. -/
def empty : Node := .scalar .plain none ""

instance : Inhabited Node := ⟨empty⟩

mutual

/-- How many events tell of a node: one of a scalar or a reference, the start and the end of a
collection and those of its members. -/
def events : Node → Nat
  | .scalar .. => 1
  | .alias _ => 1
  | .sequence items => 2 + eventsOfItems items
  | .mapping entries => 2 + eventsOfEntries entries

def eventsOfItems : List Node → Nat
  | [] => 0
  | item :: rest => item.events + eventsOfItems rest

def eventsOfEntries : List (Node × Node) → Nat
  | [] => 0
  | (key, value) :: rest => key.events + value.events + eventsOfEntries rest

end

end Node

/-- A document: its root and the nodes of its anchors. -/
structure Document where
  root : Node
  anchors : List (Nat × Node)

/-- A node together with the anchors that its references lead to. -/
structure Item where
  anchors : List (Nat × Node)
  node : Node

def Document.item (document : Document) : Item := ⟨document.anchors, document.root⟩

/-- Without content, a stream reads as an empty document. -/
def Document.empty : Document := ⟨Node.empty, []⟩

end Rollout.Yaml
