import Scaffold.Descriptor.Node
import Scaffold.Plain.Basic

/-!
# Descriptors as plain data

A node becomes an object with its kind first and then its fields in declared order. Absent texts,
absent nodes and empty lists are left out; empty texts, truth values and numbers stay.
-/

namespace Scaffold.Descriptor

/-- An attribute value. -/
def attributeValue : Option String → Plain
  | some s => .text s
  | none => .null

/-- The entry of a scalar field, if it is shown. -/
def Scalar.entry (f : Field) : Scalar → List (String × Plain)
  | text none => []
  | text (some s) => [(f.spelling, .text s)]
  | flag b => [(f.spelling, .bool b)]
  | order n => [(f.spelling, .int n)]
  | texts [] => []
  | texts ss => [(f.spelling, .list (ss.map .text))]
  | attributes [] => []
  | attributes es => [(f.spelling, .object (es.map fun (k, v) => (k, attributeValue v)))]

namespace Node

mutual

def toPlain : Node → Plain
  | mk kind slots => .object (("kind", .text kind.name) :: slotEntries slots)

def slotEntries : List Slot → List (String × Plain)
  | [] => []
  | .scalar f s :: slots => s.entry f ++ slotEntries slots
  | .child _ none :: slots => slotEntries slots
  | .child f (some n) :: slots => (f.spelling, n.toPlain) :: slotEntries slots
  | .children _ [] :: slots => slotEntries slots
  | .children f (n :: ns) :: slots =>
    (f.spelling, .list (n.toPlain :: nodesToPlain ns)) :: slotEntries slots

def nodesToPlain : List Node → List Plain
  | [] => []
  | n :: ns => n.toPlain :: nodesToPlain ns

end

end Node

end Scaffold.Descriptor
