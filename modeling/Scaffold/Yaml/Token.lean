import Scaffold.Text.Surrogate
import Scaffold.Yaml.Cursor

/-!
# YAML tokens
-/

namespace Scaffold.Yaml

/-- What a directive says. -/
inductive Directive
  | version (major : Nat)
  | handle (handle tagStart : String)
  | other
deriving DecidableEq, Repr

inductive Lexeme
  | streamStart
  | streamEnd
  | directive (d : Directive)
  | documentStart
  | documentEnd
  | blockSequenceStart
  | blockMappingStart
  | blockEnd
  | flowSequenceStart
  | flowSequenceEnd
  | flowMappingStart
  | flowMappingEnd
  | key
  | value
  | blockEntry
  | flowEntry
  | aliasOf (name : String)
  | anchor (name : String)
  /-- A tag: a handle, unless it is given in full, and what follows the handle. -/
  | tag (handle : Option String) (suffix : String)
  | scalar (text : Text.Stored) (plain : Bool)
deriving DecidableEq, Repr

/-- The name of a token in messages. -/
def Lexeme.name : Lexeme → String
  | streamStart => "<stream start>"
  | streamEnd => "<stream end>"
  | directive _ => "<directive>"
  | documentStart => "<document start>"
  | documentEnd => "<document end>"
  | blockSequenceStart => "<block sequence start>"
  | blockMappingStart => "<block mapping start>"
  | blockEnd => "<block end>"
  | flowSequenceStart => "["
  | flowSequenceEnd => "]"
  | flowMappingStart => "\x7b"
  | flowMappingEnd => "\x7d"
  | key => "?"
  | value => ":"
  | blockEntry => "-"
  | flowEntry => ","
  | aliasOf _ => "<alias>"
  | anchor _ => "<anchor>"
  | tag _ _ => "<tag>"
  | scalar _ _ => "<scalar>"

/-- A lexeme and where it starts. -/
structure Token where
  lexeme : Lexeme
  start : Mark
deriving DecidableEq, Repr

end Scaffold.Yaml
