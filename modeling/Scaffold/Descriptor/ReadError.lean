import Scaffold.Charset.Basic
import Scaffold.Descriptor.Node
import Scaffold.File.Error
import Scaffold.Number.Text
import Scaffold.Text.Quoted

/-!
# Errors of reading a descriptor

A `ReadError` says what is wrong with a document and where: its path names the open elements from
the root. A `ReadFailure` is anything else that can stop a reading as well.
-/

namespace Scaffold.Descriptor

/-- What is wrong with a document. -/
inductive ReadError
  /-- An element that its parent cannot have; at the root there is no parent. -/
  | unexpectedElement (parent : Option String) (name path : String)
  /-- A second element where one is allowed. -/
  | duplicate (name path : String)
  | tooDeep (limit : Int) (path : String)
  | missingAttribute (name element path : String)
  | invalidValue (name value element path : String)
  | invalidOrder (value element path : String)
  /-- The document ends inside an element. -/
  | unclosed (name path : String)
  | emptyDocument
  /-- The reader has read a document before. -/
  | reused
  /-- The text is no XML. -/
  | malformed (reason : String) (line column : Nat)
deriving DecidableEq, Repr

namespace ReadError

def path? : ReadError → Option String
  | unexpectedElement _ _ path => some path
  | duplicate _ path => some path
  | tooDeep _ path => some path
  | missingAttribute _ _ path => some path
  | invalidValue _ _ _ path => some path
  | invalidOrder _ _ path => some path
  | unclosed _ path => some path
  | emptyDocument => none
  | reused => none
  | malformed _ _ _ => none

def summary : ReadError → String
  | unexpectedElement none name _ => s!"Invalid root element '{name}'"
  | unexpectedElement (some parent) name _ => s!"Invalid element '{name}' with parent '{parent}'"
  | duplicate name _ => s!"Duplicate element '{name}'"
  | tooDeep limit _ => s!"Maximum nesting depth of {limit} exceeded"
  | missingAttribute name element _ =>
    s!"Missing required attribute '{name}' on element '{element}'"
  | invalidValue name value element _ =>
    s!"Invalid value '{value}' for '{name}' of element '{element}'"
  | invalidOrder value element _ => s!"Invalid value '{value}' for 'order' of element '{element}'"
  | unclosed name _ => s!"Unexpected end of document, '{name}' is not closed"
  | emptyDocument => "Empty document"
  | reused => "A reader instance can only read one document"
  | malformed reason line column => s!"Malformed XML: {reason} (line {line}, column {column})"

def message (e : ReadError) : String :=
  match e.path?.filter (· ≠ "") with
  | some path => s!"{e.summary} (at {path})"
  | none => e.summary

end ReadError

/-- What stops a reading. -/
inductive ReadFailure
  | document (e : ReadError)
  /-- An order with too many digits. -/
  | orderDigits (count : Nat)
  /-- An element is too deep, and the limit has too many digits for the message. -/
  | limitDigits
  /-- Parts that make no node. -/
  | assembly (m : Misassembly)
  /-- Something that is no markup event, as a message shows it. -/
  | foreignEvent (shown : String)
  | unopened (path : String) (e : File.Error)
  /-- The document names a character set that is of no use. -/
  | charset (e : Charset.Error)
deriving DecidableEq, Repr

namespace ReadFailure

def message : ReadFailure → String
  | document e => e.message
  | orderDigits count => Number.tooManyDigits count
  | limitDigits => Number.tooManyDigits none
  | assembly (.missing kind f) => s!"{kind.name} lacks {f.spelling}"
  | assembly (.undeclared kind f) => s!"{kind.name} has no {f.spelling}"
  | foreignEvent shown => s!"Unsupported markup event: {shown}"
  | unopened path e => e.message path
  | charset e => e.message

end ReadFailure

end Scaffold.Descriptor
