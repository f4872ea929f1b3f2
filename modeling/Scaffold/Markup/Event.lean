import Scaffold.Text.Blank

/-!
# Markup events

A document as a sequence of events: elements start and finish, with text between. A tokenizer may
cut the text of a document anywhere; `Event.collect` joins what stands between two tags, trims it,
and keeps it only when something is left. Text after the last tag is dropped.
-/

namespace Scaffold.Markup

/-- Attributes in document order; a value may be missing. -/
abbrev Attributes := List (String × Option String)

inductive Event
  | start (name : String) (attributes : Attributes)
  | text (content : String)
  | finish (name : String)
deriving DecidableEq, Repr

namespace Event

/-- The text event of a run of characters, unless the run is blank. -/
def flush (run : String) : List Event :=
  let s := Text.trimmed run
  if s = "" then [] else [text s]

/-- Joins and trims the texts of a document, given the characters since the last tag. -/
def collectFrom (run : String) : List Event → List Event
  | [] => []
  | text s :: es => collectFrom (run ++ s) es
  | start name attributes :: es => flush run ++ start name attributes :: collectFrom "" es
  | finish name :: es => flush run ++ finish name :: collectFrom "" es

/-- One trimmed text event between two tags, or none. -/
def collect (es : List Event) : List Event := collectFrom "" es

end Event

end Scaffold.Markup
