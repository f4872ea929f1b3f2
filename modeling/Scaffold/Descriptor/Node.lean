import Scaffold.Descriptor.Schema
import Scaffold.Markup.Event

/-!
# Nodes of a descriptor

A node has a kind and one slot for each declared field of that kind, in the declared order.
`Node.assemble` makes a node from what an element has brought together.
-/

namespace Scaffold.Descriptor

open Markup (Attributes)

/-- The contents of a slot that holds no nodes. -/
inductive Scalar
  | text (value : Option String)
  | flag (value : Bool)
  | order (value : Int)
  | texts (values : List String)
  | attributes (entries : Attributes)
deriving DecidableEq, Repr

mutual

inductive Node
  | mk (kind : Kind) (slots : List Slot)

/-- A field of a node with its contents. -/
inductive Slot
  | scalar (field : Field) (value : Scalar)
  | child (field : Field) (node : Option Node)
  | children (field : Field) (nodes : List Node)

end

namespace Slot

def field : Slot → Field
  | scalar f _ => f
  | child f _ => f
  | children f _ => f

/-- The text in a slot. -/
def text? : Slot → Option String
  | scalar _ (.text value) => value
  | _ => none

end Slot

namespace Node

def kind : Node → Kind
  | mk kind _ => kind

def slots : Node → List Slot
  | mk _ slots => slots

def slot? (n : Node) (f : Field) : Option Slot := n.slots.find? (·.field == f)

/-- The text in a field, if the node has the field and the field a text. -/
def text? (n : Node) (f : Field) : Option String := (n.slot? f).bind Slot.text?

/-- The nodes in a field. -/
def children (n : Node) (f : Field) : List Node :=
  match n.slot? f with
  | some (.children _ nodes) => nodes
  | some (.child _ (some node)) => [node]
  | _ => []

/-- The fields whose text can label a node, the most telling one first. -/
def labelFields : List Field := [.label, .name, .path, .id, .key]

/-- What a node is called in reports: the first text of a label field that is not empty. -/
def label (n : Node) : Option String :=
  labelFields.findSome? fun f => (n.text? f).filter (· ≠ "")

end Node

/-- What a child element hands to its parent. -/
inductive Item
  | node (n : Node)
  | text (s : String)
  | texts (ss : List String)

namespace Item

def nodes : Item → List Node
  | node n => [n]
  | _ => []

def textList : Item → List String
  | node _ => []
  | text s => [s]
  | texts ss => ss

end Item

/-- What an element has brought together for its node: converted attributes and contents, and the
children in document order, each with the field that it fills. -/
structure Parts where
  scalars : List (Field × Scalar)
  items : List (Field × Item)

namespace Parts

/-- The converted attribute or content for a field. -/
def scalar? (p : Parts) (f : Field) : Option Scalar := p.scalars.lookup f

/-- The children for a field. -/
def itemsFor (p : Parts) (f : Field) : List Item :=
  (p.items.filter (·.1 == f)).map (·.2)

def nodesFor (p : Parts) (f : Field) : List Node := (p.itemsFor f).flatMap Item.nodes

def textsFor (p : Parts) (f : Field) : List String := (p.itemsFor f).flatMap Item.textList

end Parts

/-- Why parts do not make a node. -/
inductive Misassembly
  | missing (kind : Kind) (field : Field)
  | undeclared (kind : Kind) (field : Field)
deriving DecidableEq, Repr

namespace Declaration

/-- The slot of a declared field. -/
def fill (d : Declaration) (kind : Kind) (p : Parts) : Except Misassembly Slot :=
  match d.shape with
  | .node => .ok (.child d.field (p.nodesFor d.field).head?)
  | .nodes => .ok (.children d.field (p.nodesFor d.field))
  | .text =>
    match d.origin with
    | .elements => .ok (.scalar d.field (.text (p.textsFor d.field).head?))
    | _ => .ok (.scalar d.field ((p.scalar? d.field).getD (.text none)))
  | .requiredText =>
    match p.scalar? d.field with
    | some s => .ok (.scalar d.field s)
    | none => .error (.missing kind d.field)
  | .flag => .ok (.scalar d.field ((p.scalar? d.field).getD (.flag false)))
  | .order => .ok (.scalar d.field ((p.scalar? d.field).getD (.order defaultOrder)))
  | .texts =>
    match d.origin with
    | .elements => .ok (.scalar d.field (.texts (p.textsFor d.field)))
    | _ => .ok (.scalar d.field ((p.scalar? d.field).getD (.texts [])))
  | .attributes => .ok (.scalar d.field ((p.scalar? d.field).getD (.attributes [])))

end Declaration

/-- The node of a kind with the given parts. Every part has to belong to a declared field, and
every required field has to have one. -/
def Node.assemble (kind : Kind) (p : Parts) : Except Misassembly Node :=
  match (p.scalars.map (·.1) ++ p.items.map (·.1)).find? fun f => (kind.declaration? f).isNone with
  | some f => .error (.undeclared kind f)
  | none => do return .mk kind (← kind.schema.mapM (·.fill kind p))

end Scaffold.Descriptor
