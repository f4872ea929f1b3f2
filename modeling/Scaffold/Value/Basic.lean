import Scaffold.Text.Surrogate

/-!
# Values

What an expression evaluates to: a truth value, a text or an array of texts. A variable may have a
text in which escapes have put surrogates.
-/

namespace Scaffold

inductive Value
  | truth (value : Bool)
  | text (value : String)
  | array (items : List String)
  | brokenText (text : Text.Broken)
  | brokenArray (items : Text.BrokenList)
deriving DecidableEq, Repr

namespace Value

inductive Kind
  | truth
  | text
  | array
deriving DecidableEq, Repr

/-- The name of a kind in messages. -/
def Kind.name : Kind → String
  | truth => "boolean"
  | text => "string"
  | array => "string array"

def kind : Value → Kind
  | truth _ => .truth
  | text _ => .text
  | array _ => .array
  | brokenText _ => .text
  | brokenArray _ => .array

/-- The text of some parts. -/
def ofParts (ps : List Text.Part) : Value :=
  match h : Text.Part.text? ps with
  | some s => text s
  | none => brokenText ⟨ps, h⟩

/-- The array of texts of some parts each. -/
def ofItems (items : List (List Text.Part)) : Value :=
  match h : items.mapM Text.Part.text? with
  | some ss => array ss
  | none => brokenArray ⟨items, h⟩

/-- Is the second value, a text, an item of the first one, an array? -/
def hasItem : Value → Value → Bool
  | array items, text s => items.contains s
  | brokenArray l, text s => l.items.contains (Text.Part.ofText s)
  | brokenArray l, brokenText t => l.items.contains t.parts
  | _, _ => false

end Value

end Scaffold
