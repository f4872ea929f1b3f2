import Scaffold.Yaml.Data.Scalar
import Scaffold.Yaml.Document

/-!
# Data of documents

What a document stands for. The tag of a node says which data it makes. Collections are entered level
by level, so that of several faults the one nearest to the root counts, and the first of a level.
-/

namespace Scaffold.Yaml

namespace Data

/-- What a tag makes of a node. -/
inductive Shape
  | scalar (k : ScalarKind)
  | list
  | mapping
  | set
  /-- A list of keys with their values, with what reading it is called. -/
  | pairs (a : Activity)
deriving DecidableEq, Repr

/-- The shapes of the common tags. -/
def Shape.ofName? : String → Option Shape
  | "null" => some (.scalar .null)
  | "bool" => some (.scalar .bool)
  | "int" => some (.scalar .integer)
  | "float" => some (.scalar .real)
  | "binary" => some (.scalar .binary)
  | "timestamp" => some (.scalar .timestamp)
  | "str" => some (.scalar .text)
  | "seq" => some .list
  | "map" => some .mapping
  | "set" => some .set
  | "omap" => some (.pairs .orderedMapData)
  | "pairs" => some (.pairs .pairsData)
  | _ => none

/-- The fault that a node is not what it has to be. -/
def demanded (what : Demand) (n : Node) : Error :=
  .fault { cause := .demanded what n.kindName, mark := n.start }

/-- The same fault in the course of an activity at `start`. -/
def demandedIn (a : Activity) (start : Mark) (what : Demand) (n : Node) : Error :=
  .fault ⟨some a, some start, .demanded what n.kindName, n.start⟩

/-- The shape of a node. -/
def shapeOf (n : Node) : Except Error Shape :=
  let name := (n.tag.dropPrefix? Node.commonTag).bind fun s => Shape.ofName? s.toString
  match name with
  | some s => .ok s
  | none => .error (.fault { cause := .foreignTag n.tag, mark := n.start })

mutual

/-- The text of a scalar, or of the value for the key `=` of a mapping. -/
def scalarText : Node → Except Error Text.Stored
  | .scalar _ _ s => .ok s
  | .mapping start tag entries => defaultText (.mapping start tag []) entries
  | n => .error (demanded .scalar n)

/-- The text of the first value for the key `=`; `n` is the mapping, for messages. -/
def defaultText (n : Node) : List (Node × Node) → Except Error Text.Stored
  | [] => .error (demanded .scalar n)
  | (key, value) :: es =>
    if key.tag = Node.kindTag .default then scalarText value else defaultText n es

end

mutual

/-- The entries of a mapping at `start` that other mappings give to it, and its own. The key `=` is a
text. -/
def splitEntries (start : Mark) :
    List (Node × Node) → Except Error (List (Node × Node) × List (Node × Node))
  | [] => .ok ([], [])
  | (key, value) :: es => do
    if key.tag = Node.kindTag .merge then
      let given ← mergedEntries start value
      let (merged, own) ← splitEntries start es
      return (given ++ merged, own)
    else
      let (merged, own) ← splitEntries start es
      let key := match key with
        | .scalar place _ s =>
          if key.tag = Node.kindTag .default then .scalar place (Node.kindTag .text) s else key
        | _ => key
      return (merged, (key, value) :: own)

/-- The entries that a mapping, or a list of mappings, gives to the mapping at `start`. Of a list the
last one comes first, so that the others win. -/
def mergedEntries (start : Mark) : Node → Except Error (List (Node × Node))
  | .mapping place _ es => do
    let (merged, own) ← splitEntries place es
    return merged ++ own
  | .sequence _ _ items => mergedItems start items
  | .loop _ _ true => .ok []
  | n => .error (demandedIn .mappingData start .merged n)

/-- The entries of the mappings in a list. -/
def mergedItems (start : Mark) : List Node → Except Error (List (Node × Node))
  | [] => .ok []
  | .mapping place _ es :: ns => do
    let (merged, own) ← splitEntries place es
    let others ← mergedItems start ns
    return others ++ merged ++ own
  | n :: _ => .error (demandedIn .mappingData start .mergedItem n)

end

/-- All entries of a mapping node. -/
def entriesOf : Node → Except Error (List (Node × Node))
  | .mapping start _ es => do
    let (merged, own) ← splitEntries start es
    return merged ++ own
  | n => .error (demanded .mapping n)

/-- The items of a sequence node. -/
def itemsOf : Node → Except Error (List Node)
  | .sequence _ _ items => .ok items
  | n => .error (demanded .sequence n)

/-- The key and the value that an item of a list of pairs at `start` is made of. -/
def pairOf (a : Activity) (start : Mark) : Node → Except Error (Node × Node)
  | .mapping _ _ [e] => .ok e
  | .mapping place _ es => .error (.fault ⟨some a, some start, .pairCount es.length, place⟩)
  | n => .error (demandedIn a start .pair n)

/-- The items of a list of pairs. -/
def pairItems (a : Activity) : Node → Except Error (List Node)
  | .sequence _ _ items => .ok items
  | n => .error (demandedIn a n.start .listOfPairs n)

/-- Begins with a node: reads a scalar, and leaves the parts of a collection for later. The result
says whether there is something left, and whether the data can be a key. -/
def begin (n : Node) : Except Error (Bool × Bool) := do
  match ← shapeOf n with
  | .scalar k =>
    let _ ← k.read n.start (← scalarText n)
    return (false, true)
  | _ => return (true, false)

/-- Begins with nodes and gives those that have something left. -/
def beginAll (ns : List Node) : Except Error (List Node) :=
  ns.filterM fun n => (begin n).map (·.1)

/-- Begins with the keys and values of a mapping at `start`. -/
def beginEntries (start : Mark) : List (Node × Node) → Except Error (List Node)
  | [] => .ok []
  | (key, value) :: es => do
    let (_, isKey) ← begin key
    if !isKey then
      throw (.fault ⟨some .mappingData, some start, .collectionKey, key.start⟩)
    let left ← beginAll [value]
    return left ++ (← beginEntries start es)

/-- Begins with the pairs of a list. -/
def beginPairs (a : Activity) (start : Mark) : List Node → Except Error (List Node)
  | [] => .ok []
  | n :: ns => do
    let (key, value) ← pairOf a start n
    let left ← beginAll [key, value]
    return left ++ (← beginPairs a start ns)

/-- Enters a collection and gives the nodes in it that have something left. -/
def enter (n : Node) : Except Error (List Node) :=
  match n with
  | .loop _ _ _ => .ok []
  | _ => do
    match ← shapeOf n with
    | .scalar _ => return []
    | .list => beginAll (← itemsOf n)
    | .pairs a => beginPairs a n.start (← pairItems a n)
    | _ => beginEntries n.start (← entriesOf n)

/-- Enters collections, those that were left first before those in them. -/
def settle : (fuel : Nat) → List Node → Except Error Unit
  | 0, _ => .ok ()
  | _, [] => .ok ()
  | fuel + 1, n :: ns => do
    let more ← enter n
    settle fuel (ns ++ more)

/-- What a node stands for. -/
def ofNode : (fuel : Nat) → Node → Except Error Data
  | 0, _ => .ok .null
  | _, .loop _ _ isMapping => .ok (.loop isMapping)
  | fuel + 1, n => do
    let entry (e : Node × Node) : Except Error (Data × Data) := do
      return (← ofNode fuel e.1, ← ofNode fuel e.2)
    let collect (es : List (Node × Node)) : Except Error (List (Data × Data)) :=
      es.foldlM (fun done e => do
        let (key, value) ← entry e
        return put done key value) []
    match ← shapeOf n with
    | .scalar k => k.read n.start (← scalarText n)
    | .list => return .list (← (← itemsOf n).mapM (ofNode fuel))
    | .mapping => return .mapping (← collect (← entriesOf n))
    | .set => return setOf ((← collect (← entriesOf n)).map (·.1))
    | .pairs a =>
      let es ← (← pairItems a n).mapM (pairOf a n.start)
      return .pairs (← es.mapM entry)

mutual

/-- The number of nodes in a node. -/
def size : Node → Nat
  | .sequence _ _ items => 1 + sizeItems items
  | .mapping _ _ entries => 1 + sizeEntries entries
  | _ => 1

def sizeItems : List Node → Nat
  | [] => 0
  | n :: ns => size n + sizeItems ns

def sizeEntries : List (Node × Node) → Nat
  | [] => 0
  | (k, v) :: es => size k + size v + sizeEntries es

end

end Data

/-- The data of the document in a text; nothing is null. -/
def load (text : Text.Stored) : Except Error Data := do
  match ← parse text with
  | none => return .null
  | some n =>
    Data.settle (Data.size n + 1) (← Data.beginAll [n])
    Data.ofNode (Data.size n + 1) n

end Scaffold.Yaml
