import Scaffold.Descriptor.Attribute
import Scaffold.Descriptor.Grammar

/-!
# Elements and what they become

An element tree is what a well-nested run of markup events spells out (`Element.events`).
`Element.build` turns it into a node by recursion on the tree: every child has to be listed at the
place of its parent, no child that may stand once may stand twice, and each declared field of the node
is filled by itself from the attributes, the text or the children of the element. Nothing is said
about the order of events, about open elements or about errors.
-/

namespace Scaffold.Descriptor

open Markup (Event Attributes)

mutual

/-- A name, attributes, and what stands between the tags. -/
inductive Element
  | mk (name : String) (attributes : Attributes) (body : List Content)

/-- What can stand between the tags of an element. -/
inductive Content
  | text (s : String)
  | element (e : Element)

end

namespace Element

def name : Element → String
  | mk name _ _ => name

mutual

/-- The events of an element: its start, those of its contents in order, its end. -/
def events : Element → List Event
  | mk name attributes body => .start name attributes :: (bodyEvents body ++ [.finish name])

def bodyEvents : List Content → List Event
  | [] => []
  | .text s :: body => .text s :: bodyEvents body
  | .element e :: body => e.events ++ bodyEvents body

end

/-- The text right inside an element, joined. -/
def ownText : List Content → String
  | [] => ""
  | .text s :: body => s ++ ownText body
  | .element _ :: body => ownText body

end Element

/-! ### Texts as contents of fields -/

/-- The number that an order states: digits after an optional sign, not too many of them. -/
def orderOf? (value : String) : Option Int :=
  (orderDigits? value.toList).bind fun (negative, digits) =>
    if digits.length ≤ Number.maxDigits then
      some (if negative then -(digitsValue digits : Int) else digitsValue digits)
    else none

/-- The truth value that a text states, in any case and with blanks around it. -/
def truthOf? (value : String) : Option Bool :=
  let word := (Text.trimmed value).map Char.toLower
  if word = "true" then some true else if word = "false" then some false else none

namespace Shape

/-- The contents that a text gives a field of this shape, if it can be converted. -/
def ofText? (shape : Shape) (value : String) : Option Scalar :=
  match shape with
  | .order => (orderOf? value).map .order
  | .flag => (truthOf? value).map .flag
  | .texts => some (.texts (Text.CommaList.items value))
  | _ => some (.text (some value))

/-- The contents of a field that is not stated, if it may be left out. -/
def unstated? : Shape → Option Scalar
  | .text => some (.text none)
  | .flag => some (.flag false)
  | .order => some (.order defaultOrder)
  | .texts => some (.texts [])
  | .attributes => some (.attributes [])
  | .requiredText | .node | .nodes => none

end Shape

/-! ### Nodes from their parts -/

/-- The children of an element, each with the field of the parent that it fills. -/
abbrev Children := List (Field × Item)

namespace Children

/-- What children bring to a field, in document order. -/
def forField (children : Children) (f : Field) : List Item :=
  (children.filter (·.1 == f)).map (·.2)

/-- The fields that take one child element only. -/
def soleFields : List Field := [.help, .output, .model, .directory]

/-- No field that takes one child element has two. -/
def Sole (children : Children) : Prop :=
  ∀ f ∈ soleFields, (children.map (·.1)).count f ≤ 1

instance (children : Children) : Decidable children.Sole :=
  inferInstanceAs (Decidable (∀ _ ∈ _, _))

end Children

namespace Declaration

/-- The text that states a field: its attribute, or the text of the element unless it is empty. -/
def stated? (d : Declaration) (attributes : Attributes) (text : String) : Option String :=
  match d.origin with
  | .ownAttribute => attribute? attributes d.field.attributeName
  | .content => if text = "" then none else some text
  | _ => none

/-- The slot of a declared field in the node of an element. -/
def slot? (d : Declaration) (attributes : Attributes) (text : String) (children : Children) :
    Option Slot :=
  match d.origin with
  | .elements =>
    let items := children.forField d.field
    match d.shape with
    | .node => some (.child d.field (items.flatMap Item.nodes).head?)
    | .nodes => some (.children d.field (items.flatMap Item.nodes))
    | .text => some (.scalar d.field (.text (items.flatMap Item.textList).head?))
    | .texts => some (.scalar d.field (.texts (items.flatMap Item.textList)))
    | _ => none
  | .allAttributes => some (.scalar d.field (.attributes attributes))
  | _ =>
    match d.stated? attributes text with
    | some value => (d.shape.ofText? value).map (.scalar d.field)
    | none => d.shape.unstated?.map (.scalar d.field)

end Declaration

/-- The node of a kind, field by field. -/
def Kind.node? (kind : Kind) (attributes : Attributes) (text : String) (children : Children) :
    Option Node :=
  (kind.schema.mapM fun d : Declaration => d.slot? attributes text children).map (.mk kind)

/-- What an element at a place becomes. -/
def Place.item? (place : Place) (attributes : Attributes) (text : String) (children : Children) :
    Option Item :=
  match place with
  | .document => none
  | .node kind => (kind.node? attributes text children).map .node
  | .text => some (.text text)
  | .includes | .excludes => some (.texts (children.flatMap (·.2.textList)))

def Item.isEmptyText : Item → Bool
  | text s => s == ""
  | _ => false

/-- What a child element leaves with its parent: an empty text only where it is the only one. -/
def Rule.entry (rule : Rule) (item : Item) : Children :=
  if item.isEmptyText ∧ rule.field ∉ Children.soleFields then [] else [(rule.field, item)]

namespace Element

mutual

/-- What an element becomes at its place. -/
def build (place : Place) : Element → Option Item
  | mk _ attributes body => do
    let children ← buildBody place body
    if children.Sole then place.item? attributes (ownText body) children else none

/-- The children of an element, each built at the place that the parent has for it. -/
def buildBody (place : Place) : List Content → Option Children
  | [] => some []
  | .text _ :: body => buildBody place body
  | .element e :: body => do
    let rule ← place.rule? e.name
    let item ← e.build rule.place
    let rest ← buildBody place body
    return rule.entry item ++ rest

end

variable {place : Place} {body body' : List Content}

theorem build_eq_some_iff {name : String} {attributes : Attributes} {item : Item} :
    (mk name attributes body).build place = some item ↔
      ∃ children, buildBody place body = some children ∧ children.Sole ∧
        place.item? attributes (ownText body) children = some item := by
  simp only [build, Option.bind_eq_bind, Option.bind_eq_some_iff, Option.ite_none_right_eq_some]

/-! ### Contents that are put together -/

theorem bodyEvents_append : bodyEvents (body ++ body') = bodyEvents body ++ bodyEvents body' := by
  induction body with
  | nil => rfl
  | cons c body ih =>
    cases c with
    | text s => simp [bodyEvents, ih]
    | element e => simp [bodyEvents, ih]

theorem ownText_append : ownText (body ++ body') = ownText body ++ ownText body' := by
  induction body with
  | nil => simp [ownText]
  | cons c body ih =>
    cases c with
    | text s => simp [ownText, ih, String.append_assoc]
    | element e => simp [ownText, ih]

theorem buildBody_append {xs ys : Children} (h : buildBody place body = some xs)
    (h' : buildBody place body' = some ys) : buildBody place (body ++ body') = some (xs ++ ys) := by
  induction body generalizing xs with
  | nil =>
    cases h
    exact h'
  | cons c body ih =>
    cases c with
    | text s => exact ih h
    | element e =>
      simp only [buildBody, Option.bind_eq_bind, Option.bind_eq_some_iff] at h
      obtain ⟨rule, hrule, item, hitem, rest, hrest, hxs⟩ := h
      cases hxs
      simp [buildBody, hrule, hitem, ih hrest]

end Element

end Scaffold.Descriptor
