import Scaffold.Yaml.Scalar.Block
import Scaffold.Yaml.Scalar.Plain
import Scaffold.Yaml.Scalar.Quoted
import Scaffold.Yaml.Tag

/-!
# Streams of YAML tokens

Tokens are read ahead only as far as needed: a token may turn out to be a key once a colon follows
it on its line, and until then it has to wait. Indentation becomes tokens for the start and the end
of block collections.
-/

namespace Scaffold.Yaml

/-- A token that may turn out to be a key: its number among all tokens, whether it has to be a key
because of where it stands, and where it starts. -/
structure PendingKey where
  number : Nat
  required : Bool
  mark : Mark
deriving DecidableEq, Repr

structure TokenStream where
  cursor : Cursor
  /-- Has the last token been read? -/
  done : Bool := false
  /-- How many flow collections are open. -/
  flowLevel : Int := 0
  /-- Tokens that are read and not taken. -/
  queue : List Token := []
  /-- How many tokens are taken. -/
  taken : Nat := 0
  /-- The indentation of the current block collection, and of those around it. -/
  indent : Int := -1
  indents : List Int := []
  /-- May a key start here? -/
  keyAllowed : Bool := true
  /-- Pending keys by flow level. -/
  keys : List (Int × PendingKey) := []

namespace TokenStream

def inFlow (s : TokenStream) : Bool := s.flowLevel != 0

/-- Adds a token that starts at `mark`. -/
def add (s : TokenStream) (l : Lexeme) (mark : Mark) : TokenStream :=
  { s with queue := s.queue ++ [⟨l, mark⟩] }

/-- Adds a token of `n` characters. -/
def addIndicator (s : TokenStream) (l : Lexeme) (n : Nat) : TokenStream :=
  { s.add l s.cursor.mark with cursor := s.cursor.advance n }

/-- The fault that a pending key has no colon. -/
def lostKey (s : TokenStream) (k : PendingKey) : Error :=
  .fault ⟨some .simpleKey, some k.mark, .missingColon, s.cursor.mark⟩

/-- Can this key no longer have a colon: a line or 1024 characters further on? -/
def isStale (s : TokenStream) (k : PendingKey) : Bool :=
  k.mark.line != s.cursor.mark.line || 1024 < s.cursor.mark.index - k.mark.index

/-- Drops the keys that can no longer have a colon. -/
def dropStaleKeys (s : TokenStream) : Except Error TokenStream :=
  match s.keys.find? fun (_, k) => s.isStale k && k.required with
  | some (_, k) => .error (s.lostKey k)
  | none => .ok { s with keys := s.keys.filter fun (_, k) => !s.isStale k }

/-- Drops the pending key of the current flow level. -/
def dropKey (s : TokenStream) : Except Error TokenStream :=
  match s.keys.lookup s.flowLevel with
  | none => .ok s
  | some k =>
    if k.required then .error (s.lostKey k)
    else .ok { s with keys := s.keys.filter (·.1 != s.flowLevel) }

/-- Notes that the next token may be a key. -/
def saveKey (s : TokenStream) : Except Error TokenStream := do
  if !s.keyAllowed then return s
  let s ← s.dropKey
  let required := !s.inFlow && s.indent == s.cursor.column
  let key := ⟨s.taken + s.queue.length, required, s.cursor.mark⟩
  return { s with keys := s.keys ++ [(s.flowLevel, key)] }

/-- Closes the block collections that are deeper than `column`. -/
def closeBlocks (s : TokenStream) (column : Int) : (indents : List Int) → TokenStream
  | [] => s
  | outer :: indents =>
    if s.inFlow || s.indent ≤ column then s
    else
      let s := { s with indent := outer, indents }
      (s.add .blockEnd s.cursor.mark).closeBlocks column indents

/-- Closes the block collections that are deeper than `column`. -/
def unwind (s : TokenStream) (column : Int) : TokenStream := s.closeBlocks column s.indents

/-- Opens a block collection at `column` if none is open that deep; the flag says which. -/
def deepen (s : TokenStream) (column : Nat) : TokenStream × Bool :=
  if s.indent < column then
    ({ s with indents := s.indent :: s.indents, indent := column }, true)
  else (s, false)

/-- Opens a block collection here if none is open that deep. -/
def openBlock (s : TokenStream) (l : Lexeme) : TokenStream :=
  match s.deepen s.cursor.column with
  | (s, true) => s.add l s.cursor.mark
  | (s, false) => s

/-- The fault that something is not allowed here. -/
def notAllowed (s : TokenStream) (cause : Cause) : Error :=
  .fault { cause, mark := s.cursor.mark }

/-- The end of the text. -/
def readEnd (s : TokenStream) : Except Error TokenStream := do
  let s ← (s.unwind (-1)).dropKey
  return { s.add .streamEnd s.cursor.mark with keyAllowed := false, keys := [], done := true }

def readDirective (s : TokenStream) : Except Error TokenStream := do
  let s ← (s.unwind (-1)).dropKey
  let (l, after) ← scanDirective s.cursor
  return { s.add l s.cursor.mark with keyAllowed := false, cursor := after }

/-- `---` or `...`. -/
def readDocumentMark (s : TokenStream) (l : Lexeme) : Except Error TokenStream := do
  let s ← (s.unwind (-1)).dropKey
  return { s.addIndicator l 3 with keyAllowed := false }

def readFlowStart (s : TokenStream) (l : Lexeme) : Except Error TokenStream := do
  let s ← s.saveKey
  return { s.addIndicator l 1 with flowLevel := s.flowLevel + 1, keyAllowed := true }

def readFlowEnd (s : TokenStream) (l : Lexeme) : Except Error TokenStream := do
  let s ← s.dropKey
  return { s.addIndicator l 1 with flowLevel := s.flowLevel - 1, keyAllowed := false }

def readFlowEntry (s : TokenStream) : Except Error TokenStream := do
  let s ← s.dropKey
  return { s.addIndicator .flowEntry 1 with keyAllowed := true }

def readBlockEntry (s : TokenStream) : Except Error TokenStream := do
  if !s.inFlow && !s.keyAllowed then throw (s.notAllowed .entryNotAllowed)
  let s := if s.inFlow then s else s.openBlock .blockSequenceStart
  let s ← s.dropKey
  return { s.addIndicator .blockEntry 1 with keyAllowed := true }

/-- A key that is marked as such. -/
def readKey (s : TokenStream) : Except Error TokenStream := do
  if !s.inFlow && !s.keyAllowed then throw (s.notAllowed .keyNotAllowed)
  let s := if s.inFlow then s else s.openBlock .blockMappingStart
  let s ← s.dropKey
  return { s.addIndicator .key 1 with keyAllowed := !s.inFlow }

/-- Makes a pending token a key, and the beginning of a block mapping if none is open there. -/
def promote (s : TokenStream) (k : PendingKey) : TokenStream :=
  let place := k.number - s.taken
  let (s, opened) := if s.inFlow then (s, false) else s.deepen k.mark.column
  let marks : List Token :=
    if opened then [⟨.blockMappingStart, k.mark⟩, ⟨.key, k.mark⟩] else [⟨.key, k.mark⟩]
  { s with
    queue := s.queue.take place ++ marks ++ s.queue.drop place
    keys := s.keys.filter (·.1 != s.flowLevel)
    keyAllowed := false }

/-- A colon after a key. -/
def readValue (s : TokenStream) : Except Error TokenStream := do
  match s.keys.lookup s.flowLevel with
  | some k => return (s.promote k).addIndicator .value 1
  | none =>
    if !s.inFlow && !s.keyAllowed then throw (s.notAllowed .valueNotAllowed)
    let s := if s.inFlow then s else s.openBlock .blockMappingStart
    return { s.addIndicator .value 1 with keyAllowed := !s.inFlow }

/-- A token that may turn out to be a key. -/
def readSimple (s : TokenStream) (scan : Cursor → Except Error (Lexeme × Cursor)) :
    Except Error TokenStream := do
  let s ← s.saveKey
  let (l, after) ← scan s.cursor
  return { s.add l s.cursor.mark with keyAllowed := false, cursor := after }

def readBlockScalar (s : TokenStream) : Except Error TokenStream := do
  let s ← s.dropKey
  let (text, after) ← Block.scan s.indent s.cursor
  return { s.add (.scalar (.ofChars text) false) s.cursor.mark with
    keyAllowed := true, cursor := after }

def readQuoted (s : TokenStream) : Except Error TokenStream :=
  s.readSimple fun c => do
    let (ps, after) ← Quoted.scan c
    return (.scalar (.ofParts ps) false, after)

def readPlain (s : TokenStream) : Except Error TokenStream := do
  let s ← s.saveKey
  let p := Plain.scan ⟨s.inFlow, (s.indent + 1).toNat⟩ s.cursor
  return { s.add (.scalar (.ofChars p.text) true) s.cursor.mark with
    keyAllowed := p.broken, cursor := p.after }

/-- Can a plain scalar start here? -/
def startsPlain (s : TokenStream) : Bool :=
  let c := s.cursor.head
  let indicators := ['-', '?', ':', ',', '[', ']', '\x7b', '\x7d', '#', '&', '*', '!', '|', '>',
    '\'', '"', '%', '@', '`']
  !(isSeparator c || indicators.contains c) ||
    (!isSeparator (s.cursor.peek 1) && (c == '-' || (!s.inFlow && (c == '?' || c == ':'))))

/-- The place after spaces, comments and line breaks, and whether a line break was among them. -/
def skipBlanks : (fuel : Nat) → Cursor → Cursor × Bool
  | 0, c => (c, false)
  | fuel + 1, c =>
    let c := c.skipSpaces.skipComment
    match c.lineBreak? with
    | none => (c, false)
    | some (_, c) => ((skipBlanks fuel c).1, true)

/-- Moves on to the next token. -/
def skipToToken (s : TokenStream) : TokenStream :=
  let start := if s.cursor.mark.index = 0 ∧ s.cursor.head = '\uFEFF' then s.cursor.step else s.cursor
  let (c, broken) := skipBlanks (start.rest.length + 1) start
  { s with cursor := c, keyAllowed := s.keyAllowed || (broken && !s.inFlow) }

/-- Reads one more token. -/
def readToken (s : TokenStream) : Except Error TokenStream := do
  let s ← s.skipToToken.dropStaleKeys
  let s := s.unwind s.cursor.column
  let c := s.cursor
  let alone := isSeparator (c.peek 1)
  match c.head with
  | '\x00' => s.readEnd
  | '[' => s.readFlowStart .flowSequenceStart
  | '\x7b' => s.readFlowStart .flowMappingStart
  | ']' => s.readFlowEnd .flowSequenceEnd
  | '\x7d' => s.readFlowEnd .flowMappingEnd
  | ',' => s.readFlowEntry
  | '*' => s.readSimple scanAnchor
  | '&' => s.readSimple scanAnchor
  | '!' => s.readSimple scanTag
  | '\'' => s.readQuoted
  | '"' => s.readQuoted
  | ch =>
    if ch = '%' ∧ c.column = 0 then s.readDirective
    else if c.column = 0 ∧ c.isDocumentMark then
      s.readDocumentMark (if ch = '-' then .documentStart else .documentEnd)
    else if ch = '-' ∧ alone then s.readBlockEntry
    else if ch = '?' ∧ (s.inFlow ∨ alone) then s.readKey
    else if ch = ':' ∧ (s.inFlow ∨ alone) then s.readValue
    else if (ch = '|' ∨ ch = '>') ∧ !s.inFlow then s.readBlockScalar
    else if s.startsPlain then s.readPlain
    else throw (.fault { activity := some .nextToken, cause := .cannotStart ch, mark := c.mark })

/-- Is the next token a pending key? -/
def awaitsColon (s : TokenStream) : Bool :=
  ((s.keys.map (·.2.number)).min?) == some s.taken

/-- Reads tokens until it is clear what the next one is. -/
def fill : (fuel : Nat) → TokenStream → Except Error TokenStream
  | 0, s => .ok s
  | fuel + 1, s => do
    if s.done then return s
    else if s.queue.isEmpty then fill fuel (← s.readToken)
    else
      let s ← s.dropStaleKeys
      if s.awaitsColon then fill fuel (← s.readToken) else return s

/-- The next token, which is not taken. -/
def peek (s : TokenStream) : Except Error (Token × TokenStream) := do
  let s ← fill (s.cursor.rest.length + 2) s
  return (s.queue.headD ⟨.streamEnd, s.cursor.mark⟩, s)

/-- The stream once the next token is taken. -/
def drop (s : TokenStream) : TokenStream := { s with queue := s.queue.drop 1, taken := s.taken + 1 }

/-- The tokens of a text. -/
def ofChars (cs : List Char) : TokenStream :=
  { cursor := ⟨cs, {}⟩, queue := [⟨.streamStart, {}⟩] }

end TokenStream

end Scaffold.Yaml
