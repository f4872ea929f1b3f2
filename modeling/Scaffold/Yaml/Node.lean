import Scaffold.Text.Quoted
import Scaffold.Yaml.Cursor
import Scaffold.Yaml.Kind

/-!
# YAML nodes

A document as a tree. A node has a place and a tag, and a scalar keeps the text that is written for
it, in which escapes may have put surrogates.
-/

namespace Scaffold.Yaml

inductive Node
  | scalar (start : Mark) (tag : String) (text : Text.Stored)
  | sequence (start : Mark) (tag : String) (items : List Node)
  | mapping (start : Mark) (tag : String) (entries : List (Node × Node))
  /-- A collection that stands inside itself. -/
  | loop (start : Mark) (tag : String) (isMapping : Bool)
deriving Repr

namespace Node

/-- The common beginning of tags. -/
def commonTag : String := "tag:yaml.org,2002:"

/-- The tag of scalars of a kind. -/
def kindTag (k : Kind) : String := commonTag ++ k.name

def sequenceTag : String := commonTag ++ "seq"

def mappingTag : String := commonTag ++ "map"

/-- A scalar that is not written, where it would stand. -/
def empty (start : Mark) : Node := scalar start (kindTag .null) (.ofText "")

/-- Where a node starts. -/
def start : Node → Mark
  | scalar start _ _ => start
  | sequence start _ _ => start
  | mapping start _ _ => start
  | loop start _ _ => start

def tag : Node → String
  | scalar _ tag _ => tag
  | sequence _ tag _ => tag
  | mapping _ tag _ => tag
  | loop _ tag _ => tag

/-- The name of a kind of nodes in messages. -/
def kindName : Node → String
  | scalar _ _ _ => "scalar"
  | sequence _ _ _ => "sequence"
  | mapping _ _ _ => "mapping"
  | loop _ _ isMapping => if isMapping then "mapping" else "sequence"

/-- The texts of nodes, if all of them are scalars. -/
def texts? : List Node → Option (List Text.Stored)
  | [] => some []
  | scalar _ _ text :: ns => (texts? ns).map (text :: ·)
  | _ :: _ => none

mutual

/-- A node as messages show it. -/
def shown : Node → String
  | scalar _ tag text => s!"ScalarNode(tag={Text.quoted tag}, value={text.quoted})"
  | sequence _ tag items =>
    let items := String.intercalate ", " (shownItems items)
    s!"SequenceNode(tag={Text.quoted tag}, value=[{items}])"
  | mapping _ tag entries =>
    let entries := String.intercalate ", " (shownEntries entries)
    s!"MappingNode(tag={Text.quoted tag}, value=[{entries}])"
  | loop _ tag isMapping =>
    (if isMapping then "MappingNode" else "SequenceNode") ++ s!"(tag={Text.quoted tag}, value=[...])"

def shownItems : List Node → List String
  | [] => []
  | n :: ns => shown n :: shownItems ns

def shownEntries : List (Node × Node) → List String
  | [] => []
  | (k, v) :: es => s!"({shown k}, {shown v})" :: shownEntries es

end

/-- The name that a key node gives to its value: its text, or a collection as messages show it. -/
def keyName : Node → Text.Stored
  | scalar _ _ text => text
  | sequence _ _ items => .ofText ("[" ++ String.intercalate ", " (shownItems items) ++ "]")
  | mapping _ _ entries => .ofText ("[" ++ String.intercalate ", " (shownEntries entries) ++ "]")
  | loop _ _ _ => .ofText "[...]"

end Node

end Scaffold.Yaml
