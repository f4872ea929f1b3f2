import Scaffold.Descriptor.Node

/-!
# Addresses in a descriptor

An address leads from the root of a tree to one of its nodes, a step for each level: the field, and
the index when the field holds a list. `Node.walk` lists all nodes with their addresses, a node
before those below it and fields in declared order.
-/

namespace Scaffold.Descriptor

/-- A step down: into a field, at an index when the field holds a list. -/
structure Address.Step where
  field : Field
  index : Option Nat
deriving DecidableEq, Repr

abbrev Address := List Address.Step

namespace Address

def Step.text (s : Step) : String :=
  match s.index with
  | none => "/" ++ s.field.spelling
  | some i => s!"/{s.field.spelling}[{i}]"

/-- The text of an address; the root is `/`. -/
def text : Address → String
  | [] => "/"
  | steps => String.join (steps.map Step.text)

end Address

namespace Node

/-- The node one step down. -/
def descend (n : Node) (s : Address.Step) : Option Node :=
  match n.slot? s.field, s.index with
  | some (.child _ node), none => node
  | some (.children _ nodes), some i => nodes[i]?
  | _, _ => none

/-- The node at an address. -/
def at? (n : Node) : Address → Option Node
  | [] => some n
  | s :: steps => (n.descend s).bind (·.at? steps)

mutual

/-- The nodes of a tree that stands at `here`, with their addresses. -/
def walk (here : Address) : Node → List (Address × Node)
  | mk kind slots => (here, mk kind slots) :: walkSlots here slots

def walkSlots (here : Address) : List Slot → List (Address × Node)
  | [] => []
  | .scalar _ _ :: slots => walkSlots here slots
  | .child _ none :: slots => walkSlots here slots
  | .child f (some n) :: slots => walk (here ++ [⟨f, none⟩]) n ++ walkSlots here slots
  | .children f ns :: slots => walkNodes here f 0 ns ++ walkSlots here slots

def walkNodes (here : Address) (f : Field) (i : Nat) : List Node → List (Address × Node)
  | [] => []
  | n :: ns => walk (here ++ [⟨f, some i⟩]) n ++ walkNodes here f (i + 1) ns

end

/-- All nodes of a tree with their addresses. -/
def nodes (n : Node) : List (Address × Node) := n.walk []

end Node

end Scaffold.Descriptor
