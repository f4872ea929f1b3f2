import Scaffold.Yaml.Cursor

/-!
# Plain scalars

A plain scalar goes on over single spaces and lines: a line break inside it counts as a space, and
each further one as itself.
-/

namespace Scaffold.Yaml.Plain

/-- Where a plain scalar stands: in a flow collection or not, and how far its further lines have to
be indented otherwise. -/
structure Context where
  inFlow : Bool
  indent : Nat

/-- The indicators of flow collections that end a plain scalar. -/
def flowIndicators : List Char := [',', '?', '[', ']', '\x7b', '\x7d']

/-- Does `c` before `rest` end a word of a plain scalar? -/
def endsWord (inFlow : Bool) (c : Char) (rest : List Char) : Bool :=
  let next := rest.headD nul
  isSeparator c ||
    (c == ':' && (isSeparator next || (inFlow && next != '?' && flowIndicators.contains next))) ||
    (inFlow && flowIndicators.contains c)

/-- The length of the word at the start of a text. -/
def wordLength (inFlow : Bool) : List Char → Nat
  | [] => 0
  | c :: cs => if endsWord inFlow c cs then 0 else wordLength inFlow cs + 1

/-- The line breaks and spaces between two lines of a scalar: the breaks, and the place after them,
or nothing at the mark of a document. -/
def breaks : (fuel : Nat) → Cursor → Option (List Char) × Cursor
  | 0, c => (some [], c)
  | fuel + 1, c =>
    if c.head = ' ' then breaks fuel c.step
    else match c.lineBreak? with
      | none => (some [], c)
      | some (b, c) =>
        if c.isDocumentMark then (none, c)
        else
          let (bs, c) := breaks fuel c
          (bs.map (b :: ·), c)

/-- What stands between two words of a scalar. -/
structure Gap where
  /-- What the gap counts as; nothing when the scalar ends before it. -/
  text : List Char
  after : Cursor
  /-- Does the gap hold a line break? -/
  broken : Bool

/-- The gap at a place. -/
def gap (c : Cursor) : Gap :=
  let (spaces, c) := c.takeWhile (· == ' ')
  match c.lineBreak? with
  | none => ⟨spaces, c, false⟩
  | some (b, c) =>
    if c.isDocumentMark then ⟨[], c, true⟩
    else match breaks c.rest.length c with
      | (none, c) => ⟨[], c, true⟩
      | (some bs, c) => ⟨if b ≠ '\n' then b :: bs else if bs.isEmpty then [' '] else bs, c, true⟩

/-- A plain scalar: its text, the place after it, and whether a line break stands before that
place. -/
structure Scanned where
  text : List Char
  after : Cursor
  broken : Bool

/-- The words of a plain scalar from `c` on, after `gapText`. -/
def words (ctx : Context) : (fuel : Nat) → (gapText : List Char) → Scanned → Scanned
  | 0, _, s => s
  | fuel + 1, gapText, s =>
    let c := s.after
    let length := wordLength ctx.inFlow c.rest
    if c.head = '#' ∨ length = 0 then s
    else
      let g := gap (c.advance length)
      let s := ⟨s.text ++ gapText ++ c.rest.take length, g.after, g.broken⟩
      if g.text.isEmpty ∨ g.after.head = '#' ∨ (!ctx.inFlow ∧ g.after.column < ctx.indent) then s
      else words ctx fuel g.text s

/-- The plain scalar at a place. -/
def scan (ctx : Context) (c : Cursor) : Scanned := words ctx (c.rest.length + 1) [] ⟨[], c, false⟩

end Scaffold.Yaml.Plain
