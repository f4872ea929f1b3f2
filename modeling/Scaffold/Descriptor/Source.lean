import Scaffold.Descriptor.Reader
import Scaffold.Xml.Document

/-!
# Sources of descriptors

A descriptor is given as bytes, as text, or as the path of a file. A text that starts with `<` after
blanks is the document itself; any other is a path.
-/

namespace Scaffold.Descriptor

/-- What a text says: a document or where to find it. -/
inductive Source
  | document (text : String)
  | path (p : String)
deriving DecidableEq, Repr

def Source.ofText (s : String) : Source :=
  if (Text.trimStart s.toList).head? = some '<' then .document s else .path s

namespace Feed

/-- The events of a document in bytes. -/
def ofBytes (bytes : List UInt8) : Feed :=
  match Xml.events bytes with
  | .ok events => { events }
  | .error (.malformed m) =>
    let { line, column } := m.position
    { events := [], failure := some (.document (.malformed m.defect.message line column)) }
  | .error (.charset e) => { events := [], failure := some (.charset e) }

/-- The events of a document in UTF-8. -/
def ofDocument (text : String) : Feed := ofBytes text.toUTF8.toList

/-- The events of a source. -/
def ofSource (opener : File.Opener) : Source → Feed
  | .document text => ofDocument text
  | .path p =>
    match opener p with
    | .ok bytes => ofBytes bytes
    | .error e => { events := [], failure := some (.unopened p e) }

end Feed

end Scaffold.Descriptor
