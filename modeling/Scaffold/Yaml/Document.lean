import Scaffold.Yaml.Node
import Scaffold.Yaml.TokenStream

/-!
# YAML documents

Tokens as a tree. An alias stands for the node that has its anchor; inside that node itself it is a
loop, since a tree cannot hold itself.
-/

namespace Scaffold.Yaml

/-- A reader of nodes: the tokens ahead, the anchored nodes, and what tag handles stand for. -/
structure Composer where
  tokens : TokenStream
  anchors : List (String × Node) := []
  handles : List (String × String) := []

abbrev Compose := StateT Composer (Except Error)

namespace Compose

/-- The next token. -/
def peek : Compose Token := do
  let st ← get
  let (token, tokens) ← st.tokens.peek
  set { st with tokens }
  return token

/-- Takes the next token. -/
def drop : Compose Unit := modify fun st => { st with tokens := st.tokens.drop }

def fail {α : Type} (f : Fault) : Compose α := throw (.fault f)

/-- The anchor and the tag of a node, and where they start. -/
structure Properties where
  anchor : Option String := none
  tag : Option String := none
  start : Option Mark := none

/-- A tag in full. -/
def resolveTag (handle : Option String) (suffix : String) (start mark : Mark) : Compose String := do
  match handle with
  | none => return suffix
  | some h =>
    match (← get).handles.lookup h with
    | some tagStart => return tagStart ++ suffix
    | none => fail ⟨some .node, some start, .unknownHandle h, mark⟩

/-- An anchor and a tag in either order, both of which may be missing. -/
def properties : Compose Properties := do
  let first ← peek
  match first.lexeme with
  | .anchor name =>
    drop
    let second ← peek
    match second.lexeme with
    | .tag handle suffix =>
      drop
      let tag ← resolveTag handle suffix first.start second.start
      return ⟨some name, some tag, some first.start⟩
    | _ => return ⟨some name, none, some first.start⟩
  | .tag handle suffix =>
    drop
    let second ← peek
    match second.lexeme with
    | .anchor name =>
      drop
      let tag ← resolveTag handle suffix first.start first.start
      return ⟨some name, some tag, some first.start⟩
    | _ =>
      let tag ← resolveTag handle suffix first.start first.start
      return ⟨none, some tag, some first.start⟩
  | _ => return {}

/-- The tag of a node: the one that is written, unless it is `!`, else a tag by default. -/
def tagOr (tag : Option String) (byDefault : String) : String :=
  match tag with
  | some "!" => byDefault
  | some t => t
  | none => byDefault

/-- The tag of a scalar: plain ones, and those with the tag `!`, are what they look like. -/
def scalarTag (tag : Option String) (text : Text.Stored) (plain : Bool) : String :=
  let kind := match text.text? with
    | some s => if plain || tag == some "!" then Kind.ofPlain s else .text
    | none => .text
  tagOr tag (Node.kindTag kind)

/-- Notes the node of an anchor. -/
def bind (anchor : Option String) (n : Node) : Compose Unit :=
  match anchor with
  | none => return ()
  | some name => modify fun st =>
    { st with anchors := (name, n) :: st.anchors.filter (·.1 != name) }

/-- Refuses an anchor that is in use. -/
def checkAnchor (anchor : Option String) (start : Mark) : Compose Unit := do
  match anchor with
  | none => return ()
  | some name =>
    match (← get).anchors.lookup name with
    | none => return ()
    | some first => fail ⟨some (.anchored name), some first.start, .secondAnchor, start⟩

/-- Where a node stands: in block or flow text, and whether a sequence may stand there without
indentation. -/
inductive Place
  | block
  | blockEntry
  | flow
deriving DecidableEq, Repr

/-- The lexemes after which there is no key or value in a block mapping. -/
def endsBlockPart : Lexeme → Bool
  | .key => true
  | .value => true
  | .blockEnd => true
  | _ => false

mutual

/-- The node that starts with the next token. -/
def node : (fuel : Nat) → Place → Compose Node
  | 0, _ => return .empty {}
  | fuel + 1, place => do
    let first ← peek
    match first.lexeme with
    | .aliasOf name =>
      drop
      match (← get).anchors.lookup name with
      | some n => return n
      | none => fail { cause := .unknownAlias name, mark := first.start }
    | _ =>
      let ps ← properties
      let token ← peek
      let start := ps.start.getD token.start
      let enter (n : Node) : Compose Node := do
        checkAnchor ps.anchor start
        bind ps.anchor n
        return n
      let sequence (content : Compose (List Node)) : Compose Node := do
        let tag := tagOr ps.tag Node.sequenceTag
        let _ ← enter (.loop start tag false)
        let n := Node.sequence start tag (← content)
        bind ps.anchor n
        return n
      let mapping (content : Compose (List (Node × Node))) : Compose Node := do
        let tag := tagOr ps.tag Node.mappingTag
        let _ ← enter (.loop start tag true)
        let n := Node.mapping start tag (← content)
        bind ps.anchor n
        return n
      match token.lexeme, place with
      | .blockEntry, .blockEntry => sequence (indentlessItems fuel)
      | .scalar text plain, _ =>
        drop
        enter (.scalar start (scalarTag ps.tag text plain) text)
      | .flowSequenceStart, _ => sequence (do drop; flowItems fuel token.start true)
      | .flowMappingStart, _ => mapping (do drop; flowEntries fuel token.start true)
      | lexeme, place =>
        if lexeme = .blockSequenceStart ∧ place ≠ .flow then
          sequence (do drop; blockItems fuel token.start)
        else if lexeme = .blockMappingStart ∧ place ≠ .flow then
          mapping (do drop; blockEntries fuel token.start)
        else if ps.start.isSome then
          enter (.scalar start (scalarTag ps.tag (.ofText "") true) (.ofText ""))
        else
          let activity := if place = .flow then Activity.flowNode else .blockNode
          fail ⟨some activity, some start, .noContent lexeme.name, token.start⟩

/-- A node, or an empty one at `start` if the next token ends what it would stand in. -/
def nodeUnless : (fuel : Nat) → Place → (start : Mark) → (ends : Lexeme → Bool) → Compose Node
  | 0, _, start, _ => return .empty start
  | fuel + 1, place, start, ends => do
    if ends (← peek).lexeme then return .empty start else node fuel place

/-- The value of an entry, if there is one. -/
def value : (fuel : Nat) → Place → (ends : Lexeme → Bool) → Compose Node
  | 0, _, _ => return .empty {}
  | fuel + 1, place, ends => do
    let token ← peek
    if token.lexeme = .value then
      drop
      nodeUnless fuel place token.start.next ends
    else return .empty token.start

/-- The items of a block sequence that starts at `start`. -/
def blockItems : (fuel : Nat) → (start : Mark) → Compose (List Node)
  | 0, _ => return []
  | fuel + 1, start => do
    let token ← peek
    match token.lexeme with
    | .blockEntry =>
      drop
      let n ← nodeUnless fuel .block token.start.next fun l => l = .blockEntry || l = .blockEnd
      return n :: (← blockItems fuel start)
    | .blockEnd =>
      drop
      return []
    | l => fail ⟨some .blockCollection, some start, .noBlockEnd l.name, token.start⟩

/-- The items of a sequence that is as deep as the key before it. -/
def indentlessItems : (fuel : Nat) → Compose (List Node)
  | 0 => return []
  | fuel + 1 => do
    let token ← peek
    if token.lexeme = .blockEntry then
      drop
      let n ← nodeUnless fuel .block token.start.next fun l => l = .blockEntry || endsBlockPart l
      return n :: (← indentlessItems fuel)
    else return []

/-- The entries of a block mapping that starts at `start`. -/
def blockEntries : (fuel : Nat) → (start : Mark) → Compose (List (Node × Node))
  | 0, _ => return []
  | fuel + 1, start => do
    let token ← peek
    match token.lexeme with
    | .key =>
      drop
      let k ← nodeUnless fuel .blockEntry token.start.next endsBlockPart
      let v ← value fuel .blockEntry endsBlockPart
      return (k, v) :: (← blockEntries fuel start)
    | .blockEnd =>
      drop
      return []
    | l => fail ⟨some .blockMapping, some start, .noBlockEnd l.name, token.start⟩

/-- The items of a flow sequence that starts at `start`; `first` says that none is read yet. -/
def flowItems : (fuel : Nat) → (start : Mark) → (first : Bool) → Compose (List Node)
  | 0, _, _ => return []
  | fuel + 1, start, first => do
    let token ← peek
    if token.lexeme = .flowSequenceEnd then
      drop
      return []
    else
      if !first then
        if token.lexeme = .flowEntry then drop
        else fail ⟨some .flowSequence, some start, .noSequenceEnd token.lexeme.name, token.start⟩
      let ends (l : Lexeme) : Bool := l = .flowEntry || l = .flowSequenceEnd
      let token ← peek
      match token.lexeme with
      | .flowSequenceEnd =>
        drop
        return []
      | .key =>
        drop
        let k ← nodeUnless fuel .flow token.start.next fun l => l = .value || ends l
        let v ← value fuel .flow ends
        return .mapping token.start Node.mappingTag [(k, v)] :: (← flowItems fuel start false)
      | _ =>
        let n ← node fuel .flow
        return n :: (← flowItems fuel start false)

/-- The entries of a flow mapping that starts at `start`; `first` says that none is read yet. -/
def flowEntries : (fuel : Nat) → (start : Mark) → (first : Bool) → Compose (List (Node × Node))
  | 0, _, _ => return []
  | fuel + 1, start, first => do
    let token ← peek
    if token.lexeme = .flowMappingEnd then
      drop
      return []
    else
      if !first then
        if token.lexeme = .flowEntry then drop
        else fail ⟨some .flowMapping, some start, .noMappingEnd token.lexeme.name, token.start⟩
      let ends (l : Lexeme) : Bool := l = .flowEntry || l = .flowMappingEnd
      let token ← peek
      match token.lexeme with
      | .flowMappingEnd =>
        drop
        return []
      | .key =>
        drop
        let k ← nodeUnless fuel .flow token.start.next fun l => l = .value || ends l
        let v ← value fuel .flow ends
        return (k, v) :: (← flowEntries fuel start false)
      | _ =>
        let k ← node fuel .flow
        let after ← peek
        return (k, .empty after.start) :: (← flowEntries fuel start false)

end

/-- The handles that need no directive. -/
def commonHandles : List (String × String) := [("!", "!"), ("!!", Node.commonTag)]

/-- Reads directives: the handles that they declare, and whether there was one on the version. -/
def directives : (fuel : Nat) → (handles : List (String × String)) → (versioned : Bool) →
    Compose (List (String × String))
  | 0, handles, _ => return handles
  | fuel + 1, handles, versioned => do
    let token ← peek
    match token.lexeme with
    | .directive d =>
      drop
      match d with
      | .version major =>
        if versioned then fail { cause := .secondVersion, mark := token.start }
        else if major ≠ 1 then fail { cause := .foreignVersion, mark := token.start }
        else directives fuel handles true
      | .handle h tagStart =>
        if (handles.lookup h).isSome then fail { cause := .secondHandle h, mark := token.start }
        else directives fuel (handles ++ [(h, tagStart)]) versioned
      | .other => directives fuel handles versioned
    | _ => return handles

/-- Drops the marks that end a document. -/
def dropDocumentEnds : (fuel : Nat) → Compose Unit
  | 0 => return ()
  | fuel + 1 => do
    if (← peek).lexeme = .documentEnd then
      drop
      dropDocumentEnds fuel

/-- The beginning of an explicit document, if there is one, and where it is. -/
def documentStart (fuel : Nat) : Compose (Option Mark) := do
  dropDocumentEnds fuel
  let first ← peek
  if first.lexeme = .streamEnd then return none
  let handles ← directives fuel [] false
  let token ← peek
  if token.lexeme ≠ .documentStart then
    fail { cause := .noDocumentStart token.lexeme.name, mark := token.start }
  drop
  modify fun st => { st with handles := handles ++ commonHandles }
  return some first.start

/-- The content of an explicit document; nothing counts as an empty scalar. -/
def explicitContent (fuel : Nat) : Compose Node := do
  let token ← peek
  match token.lexeme with
  | .directive _ => return .empty token.start
  | .documentStart => return .empty token.start
  | .documentEnd => return .empty token.start
  | .streamEnd => return .empty token.start
  | _ => node fuel .block

/-- The root of the first document, if there is a document. -/
def root (fuel : Nat) : Compose (Option Node) := do
  let token ← peek
  let explicit := match token.lexeme with
    | .directive _ => true
    | .documentStart => true
    | .streamEnd => true
    | _ => false
  if explicit then
    match ← documentStart fuel with
    | none => return none
    | some _ => return some (← explicitContent fuel)
  else
    modify fun st => { st with handles := commonHandles }
    return some (← node fuel .block)

/-- The root of the only document. -/
def single (fuel : Nat) : Compose (Option Node) := do
  let _ ← peek
  drop
  match ← root fuel with
  | none => return none
  | some n =>
    if (← peek).lexeme = .documentEnd then drop
    match ← documentStart fuel with
    | none => return some n
    | some mark => fail ⟨some .singleDocument, some n.start, .secondDocument, mark⟩

end Compose

/-- Is this a character that YAML allows? -/
def isPrintable (p : Text.Part) : Bool :=
  let n := p.number
  n == 0x09 || n == 0x0A || n == 0x0D || (0x20 ≤ n && n ≤ 0x7E) || n == 0x85 ||
    (0xA0 ≤ n && n ≤ 0xFFFD && p.isChar) || 0x10000 ≤ n

/-- The root of the document in a text, if there is one. -/
def parse (text : Text.Stored) : Except Error (Option Node) :=
  let ps := text.parts
  match ps.dropWhile isPrintable with
  | p :: _ => .error (.unprintable p.number (ps.takeWhile isPrintable).length)
  | [] =>
    let fuel := 8 * ps.length + 32
    (Compose.single fuel).run' { tokens := .ofChars (ps.filterMap Text.Part.char?) }

end Scaffold.Yaml
