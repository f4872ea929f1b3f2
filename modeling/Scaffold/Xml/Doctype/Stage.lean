import Scaffold.Xml.Doctype.Lexeme

/-!
# Stages of a prolog

Which lexemes may follow each other before the root element: a document type with its declarations
may stand there, and comments, instructions and spaces. A stage keeps what later lexemes need, such
as the name of the entity that is being declared.
-/

namespace Scaffold.Xml.Doctype

/-- The sign between the parts of a group of elements, once there is one. -/
inductive Connector
  | unknown
  | sequence
  | choice
deriving DecidableEq, Repr

/-- The attribute that is being declared. -/
structure Subject where
  element : String
  name : String
  isText : Bool := false
  isIdentifier : Bool := false
deriving DecidableEq, Repr

/-- The entity that is being declared. -/
structure Declared where
  name : String
  isParameter : Bool
deriving DecidableEq, Repr

inductive Stage
  | prolog
  | doctypeName
  | doctypeBody
  | doctypePublic
  | doctypeSystem
  | doctypeLocated
  | subset
  | subsetEnd
  /-- After the document type. -/
  | ready
  | entityName
  | parameterName
  | entityBody (e : Declared)
  | entityPublic (e : Declared)
  | entitySystem (e : Declared)
  | entityLocated (e : Declared)
  | entityFormat (e : Declared)
  | formatName
  | formatBody
  | formatPublic
  | formatSystem
  | formatLocated
  | attributeElement
  | attributeName (element : String)
  | attributeType (a : Subject)
  | tokenChoice (a : Subject)
  | tokenNext (a : Subject)
  | formatGroup (a : Subject)
  | formatChoice (a : Subject)
  | formatNext (a : Subject)
  | attributeDefault (a : Subject)
  | attributeFixed (a : Subject)
  | elementName
  | elementBody
  | groupStart
  | mixed
  | mixedName
  | mixedNext
  /-- A part of a group is due; the connectors are those of the open groups, innermost first. -/
  | part (groups : List Connector)
  | partNext (groups : List Connector)
  /-- Only `>` is due. -/
  | declared
deriving DecidableEq, Repr

namespace Stage

/-- The stage in which a declaration opens with this keyword. -/
def ofKeyword? : String → Option Stage
  | "ENTITY" => some entityName
  | "ATTLIST" => some attributeElement
  | "ELEMENT" => some elementName
  | "NOTATION" => some formatName
  | _ => none

/-- The types of attributes that a keyword alone names. -/
def attributeTypes : List String :=
  ["CDATA", "ID", "IDREF", "IDREFS", "ENTITY", "ENTITIES", "NMTOKEN", "NMTOKENS"]

/-- The stage after a group closes, inside the groups around it. -/
def afterGroup : List Connector → Stage
  | [] => declared
  | groups => partNext groups

/-- The stage after a lexeme other than a space; none when the lexeme cannot stand here. -/
def next? : Stage → Lexeme → Option Stage
  | prolog, .instruction => some prolog
  | prolog, .comment => some prolog
  | prolog, .opening "DOCTYPE" => some doctypeName
  | ready, .instruction => some ready
  | ready, .comment => some ready
  | doctypeName, .name _ => some doctypeBody
  | doctypeBody, .name "SYSTEM" => some doctypeSystem
  | doctypeBody, .name "PUBLIC" => some doctypePublic
  | doctypeBody, .openBracket => some subset
  | doctypeBody, .closing => some ready
  | doctypePublic, .literal _ => some doctypeSystem
  | doctypeSystem, .literal _ => some doctypeLocated
  | doctypeLocated, .openBracket => some subset
  | doctypeLocated, .closing => some ready
  | subset, .instruction => some subset
  | subset, .comment => some subset
  | subset, .opening keyword => ofKeyword? keyword
  | subset, .parameter _ => some subset
  | subset, .closeBracket => some subsetEnd
  | subsetEnd, .closing => some ready
  | entityName, .percent => some parameterName
  | entityName, .name n => some (entityBody ⟨n, false⟩)
  | parameterName, .name n => some (entityBody ⟨n, true⟩)
  | entityBody e, .name "SYSTEM" => some (entitySystem e)
  | entityBody e, .name "PUBLIC" => some (entityPublic e)
  | entityBody _, .literal _ => some declared
  | entityPublic e, .literal _ => some (entitySystem e)
  | entitySystem e, .literal _ => some (entityLocated e)
  | entityLocated _, .closing => some subset
  | entityLocated e, .name "NDATA" => if e.isParameter then none else some (entityFormat e)
  | entityFormat _, .name _ => some declared
  | formatName, .name _ => some formatBody
  | formatBody, .name "SYSTEM" => some formatSystem
  | formatBody, .name "PUBLIC" => some formatPublic
  | formatPublic, .literal _ => some formatLocated
  | formatSystem, .literal _ => some declared
  | formatLocated, .literal _ => some declared
  | formatLocated, .closing => some subset
  | attributeElement, .name n => some (attributeName n)
  | attributeName _, .closing => some subset
  | attributeName element, .name n => some (attributeType { element, name := n })
  | attributeType a, .name "NOTATION" => some (formatGroup a)
  | attributeType a, .name n =>
    if attributeTypes.contains n then
      some (attributeDefault { a with isText := n = "CDATA", isIdentifier := n = "ID" })
    else none
  | attributeType a, .openParen => some (tokenChoice a)
  | tokenChoice a, .name _ => some (tokenNext a)
  | tokenChoice a, .token _ => some (tokenNext a)
  | tokenNext a, .bar => some (tokenChoice a)
  | tokenNext a, .closeParen => some (attributeDefault a)
  | formatGroup a, .openParen => some (formatChoice a)
  | formatChoice a, .name _ => some (formatNext a)
  | formatNext a, .bar => some (formatChoice a)
  | formatNext a, .closeParen => some (attributeDefault a)
  | attributeDefault a, .hash "IMPLIED" => some (attributeName a.element)
  | attributeDefault a, .hash "REQUIRED" => some (attributeName a.element)
  | attributeDefault a, .hash "FIXED" => some (attributeFixed a)
  | attributeDefault a, .literal _ => some (attributeName a.element)
  | attributeFixed a, .literal _ => some (attributeName a.element)
  | elementName, .name _ => some elementBody
  | elementBody, .name "EMPTY" => some declared
  | elementBody, .name "ANY" => some declared
  | elementBody, .openParen => some groupStart
  | groupStart, .hash "PCDATA" => some mixed
  | groupStart, .openParen => some (part [.unknown, .unknown])
  | groupStart, .name _ => some (partNext [.unknown])
  | groupStart, .counted _ => some (partNext [.unknown])
  | mixed, .closeParen => some declared
  | mixed, .closeParenStar => some declared
  | mixed, .bar => some mixedName
  | mixedName, .name _ => some mixedNext
  | mixedNext, .closeParenStar => some declared
  | mixedNext, .bar => some mixedName
  | part groups, .openParen => some (part (.unknown :: groups))
  | part groups, .name _ => some (partNext groups)
  | part groups, .counted _ => some (partNext groups)
  | partNext (_ :: groups), .closeParen => some (afterGroup groups)
  | partNext (_ :: groups), .closeParenStar => some (afterGroup groups)
  | partNext (_ :: groups), .closeParenCounted => some (afterGroup groups)
  | partNext (c :: groups), .comma => if c = .choice then none else some (part (.sequence :: groups))
  | partNext (c :: groups), .bar => if c = .sequence then none else some (part (.choice :: groups))
  | declared, .closing => some subset
  | _, _ => none

end Stage

end Scaffold.Xml.Doctype
