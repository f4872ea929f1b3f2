import Scaffold.Descriptor.Attribute
import Scaffold.Descriptor.Grammar

/-!
# Reading a descriptor

The reader takes one markup event at a time and keeps a frame for every open element. When an
element finishes, its frame becomes a node, a text or a list of texts, which goes to the frame
below. `read` is the reading of a whole document.
-/

namespace Scaffold.Descriptor

open Markup (Event Attributes)

/-- An open element: its name, its place, the field of the parent that it fills, whether that field
takes one element only, and what has come together so far. -/
structure Frame where
  name : String
  place : Place
  field : Field
  singular : Bool
  scalars : List (Field × Scalar) := []
  items : List (Field × Item) := []
  text : String := ""

/-- The finished root, once there is one, and the open elements, innermost first. -/
structure ReaderState where
  root : Option Node := none
  frames : List Frame := []

/-- The path of open elements, innermost first. -/
def pathOf (names : List String) : String := String.intercalate "/" names.reverse

namespace Frame

/-- What the element hands to its parent, if anything: an empty text goes nowhere, unless the
parent has a field for this text alone. -/
def result (f : Frame) (path : String) : Except ReadFailure (Option Item) :=
  match f.place with
  | .text => .ok (if f.text = "" ∧ ¬ f.singular then none else some (.text f.text))
  | .node kind => do
    let content ← kind.readContent ⟨f.name, path⟩ f.text
    let node ← (Node.assemble kind ⟨f.scalars ++ content, f.items⟩).mapError .assembly
    return some (.node node)
  | _ => .ok (some (.texts (f.items.flatMap (·.2.textList))))

end Frame

namespace ReaderState

def names (st : ReaderState) : List String := st.frames.map (·.name)

/-- The place in which the next element starts. -/
def place (st : ReaderState) : Place :=
  match st.frames with
  | [] => .document
  | f :: _ => f.place

/-- Has the field `f` of the innermost open element been filled? -/
def isFilled (st : ReaderState) (f : Field) : Bool :=
  match st.frames with
  | [] => st.root.isSome
  | frame :: _ => frame.items.any (·.1 == f)

/-- Gives an item to the innermost open element, or to the document. -/
def attach (st : ReaderState) (f : Field) (item : Item) : ReaderState :=
  match st.frames, item with
  | [], .node n => { st with root := some n }
  | [], _ => st
  | frame :: frames, item =>
    { st with frames := { frame with items := frame.items ++ [(f, item)] } :: frames }

/-- The attributes of a new element as fields of its node. -/
def openScalars (place : Place) (site : Site) (attributes : Attributes) :
    Except ReadFailure (List (Field × Scalar)) :=
  match place with
  | .node kind => kind.readAttributes site attributes
  | _ => .ok []

/-- An element starts. -/
def start (maxDepth : Option Int) (st : ReaderState) (name : String) (attributes : Attributes) :
    Except ReadFailure ReaderState := do
  let path := pathOf (name :: st.names)
  match st.place.rule? name with
  | none => throw (.document (.unexpectedElement st.names.head? name path))
  | some rule =>
    let singular := st.place.isSingular rule.field
    if singular && st.isFilled rule.field then
      if st.frames.isEmpty then throw (.document (.unexpectedElement none name path))
      else throw (.document (.duplicate name path))
    match maxDepth.filter fun limit : Int => limit < st.frames.length + 1 with
    | some limit =>
      throw (if (Number.integer limit).isWritable then .document (.tooDeep limit path)
        else .limitDigits)
    | none =>
      let scalars ← openScalars rule.place ⟨name, path⟩ attributes
      return { st with frames :=
        { name, place := rule.place, field := rule.field, singular, scalars } :: st.frames }

/-- Text arrives. -/
def text (st : ReaderState) (content : String) : ReaderState :=
  match st.frames with
  | frame :: frames =>
    if frame.place.keepsText then
      { st with frames := { frame with text := frame.text ++ content } :: frames }
    else st
  | [] => st

/-- An element finishes. -/
def finish (st : ReaderState) (name : String) : Except ReadFailure ReaderState := do
  match st.frames with
  | [] => throw (.document (.unexpectedElement none name name))
  | frame :: frames =>
    let path := pathOf st.names
    if frame.name ≠ name then
      throw (.document (.unexpectedElement (some frame.name) name path))
    let below : ReaderState := { st with frames }
    match ← frame.result path with
    | none => return below
    | some item => return below.attach frame.field item

/-- One event. -/
def step (maxDepth : Option Int) (st : ReaderState) : Event → Except ReadFailure ReaderState
  | .start name attributes => st.start maxDepth name attributes
  | .text content => .ok (st.text content)
  | .finish name => st.finish name

/-- The root, once the document is over. -/
def result (st : ReaderState) : Except ReadFailure Node :=
  match st.frames, st.root with
  | frame :: _, _ => .error (.document (.unclosed frame.name (pathOf st.names)))
  | [], none => .error (.document .emptyDocument)
  | [], some root => .ok root

end ReaderState

/-- Reads a document. The root is at depth one; with a limit, no element may lie deeper. -/
def read (maxDepth : Option Int) (events : List Event) : Except ReadFailure Node := do
  let st ← events.foldlM (ReaderState.step maxDepth) {}
  st.result

/-- Events that may break off: with a failure in place of the next event. -/
structure Feed where
  events : List Event
  failure : Option ReadFailure := none

/-- Reads a document from a feed; the failure counts once the events before it are accepted. -/
def Feed.read (maxDepth : Option Int) (feed : Feed) : Except ReadFailure Node := do
  let st ← feed.events.foldlM (ReaderState.step maxDepth) {}
  match feed.failure with
  | some e => throw e
  | none => st.result

/-- A reader for one document. -/
structure Reader where
  maxDepth : Option Int
  used : Bool := false

/-- Reads a document, unless the reader has been used. -/
def Reader.read (r : Reader) (feed : Feed) : Except ReadFailure Node × Reader :=
  if r.used then (.error (.document .reused), r)
  else (feed.read r.maxDepth, { r with used := true })

end Scaffold.Descriptor
