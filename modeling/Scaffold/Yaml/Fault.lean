import Scaffold.Text.Base64
import Scaffold.Text.Quoted
import Scaffold.Text.Utf8
import Scaffold.Yaml.Cursor
import Scaffold.Yaml.Moment

/-!
# Faults of YAML text

Why a text is no YAML: what the reader was at, where that began, what is wrong and where.
-/

namespace Scaffold.Yaml

/-- What the reader was at. -/
inductive Activity
  | nextToken
  | simpleKey
  | directive
  | directiveUri
  | anchor
  | aliasName
  | tag
  | tagUri
  | blockScalar
  | quoted
  | doubleQuoted
  | node
  | blockNode
  | flowNode
  | blockCollection
  | blockMapping
  | flowSequence
  | flowMapping
  | anchored (name : String)
  | singleDocument
  | mappingData
  | orderedMapData
  | pairsData
deriving DecidableEq, Repr

def Activity.message : Activity → String
  | nextToken => "while scanning for the next token"
  | simpleKey => "while scanning a simple key"
  | directive => "while scanning a directive"
  | directiveUri => "while parsing a directive"
  | anchor => "while scanning an anchor"
  | aliasName => "while scanning an alias"
  | tag => "while scanning a tag"
  | tagUri => "while parsing a tag"
  | blockScalar => "while scanning a block scalar"
  | quoted => "while scanning a quoted scalar"
  | doubleQuoted => "while scanning a double-quoted scalar"
  | node => "while parsing a node"
  | blockNode => "while parsing a block node"
  | flowNode => "while parsing a flow node"
  | blockCollection => "while parsing a block collection"
  | blockMapping => "while parsing a block mapping"
  | flowSequence => "while parsing a flow sequence"
  | flowMapping => "while parsing a flow mapping"
  | anchored name => s!"found duplicate anchor {Text.quoted name}; first occurrence"
  | singleDocument => "expected a single document in the stream"
  | mappingData => "while constructing a mapping"
  | orderedMapData => "while constructing an ordered map"
  | pairsData => "while constructing pairs"

/-- What had to stand where another character stands. -/
inductive Expected
  | word
  | digit
  | digitOrPoint
  | digitOrSpace
  | space
  | commentOrBreak
  | closingAngle
  | bang
  | uri
  | uriEscape
  | escape (digits : Nat)
  | blockIndicator
deriving DecidableEq, Repr

def Expected.message : Expected → String
  | word => "alphabetic or numeric character"
  | digit => "a digit"
  | digitOrPoint => "a digit or '.'"
  | digitOrSpace => "a digit or ' '"
  | space => "' '"
  | commentOrBreak => "a comment or a line break"
  | closingAngle => "'>'"
  | bang => "'!'"
  | uri => "URI"
  | uriEscape => "URI escape sequence of 2 hexadecimal numbers"
  | escape digits => s!"escape sequence of {digits} hexadecimal numbers"
  | blockIndicator => "chomping or indentation indicators"

/-- What a node has to be for the data that its tag announces, or that it is merged into. -/
inductive Demand
  | scalar
  | sequence
  | mapping
  | merged
  | mergedItem
  | listOfPairs
  | pair
deriving DecidableEq, Repr

def Demand.message : Demand → String
  | scalar => "a scalar node"
  | sequence => "a sequence node"
  | mapping => "a mapping node"
  | merged => "a mapping or list of mappings for merging"
  | mergedItem => "a mapping for merging"
  | listOfPairs => "a sequence"
  | pair => "a mapping of length 1"

/-- What is wrong. Tokens and nodes are given by their names. -/
inductive Cause
  | expected (what : Expected) (found : Char)
  | cannotStart (c : Char)
  | missingColon
  | entryNotAllowed
  | keyNotAllowed
  | valueNotAllowed
  | zeroIndentation
  | unknownEscape (c : Char)
  | undecodable (f : Text.Utf8.Fault)
  | endOfStream
  | documentSeparator
  | noDocumentStart (token : String)
  | secondVersion
  | foreignVersion
  | secondHandle (handle : String)
  | unknownHandle (handle : String)
  | noContent (token : String)
  | noBlockEnd (token : String)
  | noSequenceEnd (token : String)
  | noMappingEnd (token : String)
  | unknownAlias (name : String)
  | secondAnchor
  | secondDocument
  | foreignTag (tag : String)
  | demanded (what : Demand) (node : String)
  | pairCount (count : Nat)
  | collectionKey
  | notAscii (reason : String)
  | notBase64 (e : Text.Base64.Error)
deriving DecidableEq, Repr

/-- A character as messages show it. -/
def shownChar (c : Char) : String := Text.quoted (String.ofList [c])

def Cause.message : Cause → String
  | expected what found => s!"expected {what.message}, but found {shownChar found}"
  | cannotStart c => s!"found character {shownChar c} that cannot start any token"
  | missingColon => "could not find expected ':'"
  | entryNotAllowed => "sequence entries are not allowed here"
  | keyNotAllowed => "mapping keys are not allowed here"
  | valueNotAllowed => "mapping values are not allowed here"
  | zeroIndentation => "expected indentation indicator in the range 1-9, but found 0"
  | unknownEscape c => s!"found unknown escape character {shownChar c}"
  | undecodable f => f.message
  | endOfStream => "found unexpected end of stream"
  | documentSeparator => "found unexpected document separator"
  | noDocumentStart token => s!"expected '<document start>', but found {Text.quoted token}"
  | secondVersion => "found duplicate YAML directive"
  | foreignVersion => "found incompatible YAML document (version 1.* is required)"
  | secondHandle handle => s!"duplicate tag handle {Text.quoted handle}"
  | unknownHandle handle => s!"found undefined tag handle {Text.quoted handle}"
  | noContent token => s!"expected the node content, but found {Text.quoted token}"
  | noBlockEnd token => s!"expected <block end>, but found {Text.quoted token}"
  | noSequenceEnd token => s!"expected ',' or ']', but got {Text.quoted token}"
  | noMappingEnd token => s!"expected ',' or '\x7d', but got {Text.quoted token}"
  | unknownAlias name => s!"found undefined alias {Text.quoted name}"
  | secondAnchor => "second occurrence"
  | secondDocument => "but found another document"
  | foreignTag tag => s!"could not determine a constructor for the tag {Text.quoted tag}"
  | demanded what node => s!"expected {what.message}, but found {node}"
  | pairCount count => s!"expected a single mapping item, but found {count} items"
  | collectionKey => "found unhashable key"
  | notAscii reason => s!"failed to convert base64 data into ascii: {reason}"
  | notBase64 e => s!"failed to decode base64 data: {e.message}"

/-- A fault at a place, in the course of an activity that may have begun before it. -/
structure Fault where
  activity : Option Activity := none
  start : Option Mark := none
  cause : Cause
  mark : Mark
deriving DecidableEq, Repr

/-- Why a text cannot be read. -/
inductive Error
  | fault (f : Fault)
  /-- A character that YAML does not allow, none of them beyond U+FFFF, and the number of characters
  before it. -/
  | unprintable (code : Nat) (position : Nat)
  /-- An escape for a number beyond all characters. -/
  | noCharacter
  /-- An escape for a number that does not even fit 31 bits. -/
  | hugeNumber
  /-- A scalar that is no integer in a base. -/
  | noInteger (base : Nat) (text : Text.Stored)
  /-- An integer with too many digits. -/
  | manyDigits (count : Nat)
  /-- A scalar that is no number. -/
  | noReal (text : Text.Stored)
  /-- A number without anything in it. -/
  | emptyNumber
  | noTruth (text : Text.Stored)
  | noMoment
  | moment (e : Moment.Error)
deriving DecidableEq, Repr

/-- The lines of a message on a fault. The place of the beginning is left out when it is the place
of the fault. -/
def Fault.lines (f : Fault) (source : Source) : List String :=
  let activity := (f.activity.map (·.message)).toList
  let start := f.start.filter fun m => m.line ≠ f.mark.line ∨ m.column ≠ f.mark.column
  activity ++ (start.map (·.shown source)).toList ++ [f.cause.message, f.mark.shown source]

def Error.message (source : Source) : Error → String
  | fault f => String.intercalate "\n" (f.lines source)
  | unprintable code position =>
    let code := String.ofList (Text.hexDigits .lower 4 code)
    s!"unacceptable character #x{code}: special characters are not allowed\n" ++
      s!"  in \"{source.name}\", position {position}"
  | noCharacter => "chr() arg not in range(0x110000)"
  | hugeNumber => "Python int too large to convert to C int"
  | noInteger base text =>
    -- no more than 200 characters are shown of the text
    s!"invalid literal for int() with base {base}: {String.ofList (text.quoted.toList.take 200)}"
  | manyDigits count => Number.tooManyDigits count
  | noReal text => s!"could not convert string to float: {text.quoted}"
  | emptyNumber => "string index out of range"
  | noTruth text => text.quoted
  | noMoment => "'NoneType' object has no attribute 'groupdict'"
  | moment e => e.message

/-- Does a run report this error as its own? -/
def Error.isReported : Error → Bool
  | hugeNumber => false
  | emptyNumber => false
  | noTruth _ => false
  | noMoment => false
  | _ => true

end Scaffold.Yaml
