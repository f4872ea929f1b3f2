import Scaffold.Yaml.Fault

/-!
# Block scalars

After `|` the lines of a scalar are kept as they are, after `>` they are folded like those of a
plain scalar. A header says what becomes of the last line breaks and how deep the lines stand, if
the first line is not to show it.
-/

namespace Scaffold.Yaml.Block

/-- What becomes of the line breaks at the end: the last one stays, all stay, or none. -/
inductive Chomping
  | clip
  | keep
  | strip
deriving DecidableEq, Repr

structure Header where
  chomping : Chomping := .clip
  /-- How much deeper than its parent the scalar stands. -/
  increment : Option Nat := none

/-- The fault of a block scalar that starts at `start`. -/
def fault (start : Mark) (cause : Cause) (c : Cursor) : Error :=
  .fault ⟨some .blockScalar, some start, cause, c.mark⟩

def chomping? : Char → Option Chomping
  | '+' => some .keep
  | '-' => some .strip
  | _ => none

/-- An indentation indicator, if there is one here. -/
def increment (start : Mark) (c : Cursor) : Except Error (Option Nat × Cursor) :=
  if c.head = '0' then .error (fault start .zeroIndentation c)
  else if c.head.isDigit then .ok (some (c.head.toNat - '0'.toNat), c.step)
  else .ok (none, c)

/-- The indicators of a header, in either order. -/
def indicators (start : Mark) (c : Cursor) : Except Error (Header × Cursor) := do
  match chomping? c.head with
  | some chomping =>
    let (n, c) ← increment start c.step
    return (⟨chomping, n⟩, c)
  | none =>
    let (n, c) ← increment start c
    match n, chomping? c.head with
    | some n, some chomping => return (⟨chomping, some n⟩, c.step)
    | n, _ => return (⟨.clip, n⟩, c)

/-- The header of a block scalar, to the end of its line. -/
def header (start : Mark) (c : Cursor) : Except Error (Header × Cursor) := do
  let (h, c) ← indicators start c
  if !isWordEnd c.head then throw (fault start (.expected .blockIndicator c.head) c)
  let c := c.skipSpaces.skipComment
  if !isLineEnd c.head then throw (fault start (.expected .commentOrBreak c.head) c)
  return (h, (c.lineBreak?.map (·.2)).getD c)

/-- The blank lines at the beginning, and how deep the deepest line of them goes. -/
def leading : (fuel deepest : Nat) → Cursor → List Char × Nat × Cursor
  | 0, deepest, c => ([], deepest, c)
  | fuel + 1, deepest, c =>
    if c.head = ' ' then leading fuel (max deepest c.step.column) c.step
    else match c.lineBreak? with
      | none => ([], deepest, c)
      | some (b, c) =>
        let (bs, deepest, c) := leading fuel deepest c
        (b :: bs, deepest, c)

/-- The place after the spaces of an indentation. -/
def skipIndent (indent : Nat) (c : Cursor) : Cursor :=
  c.advance (min (c.rest.takeWhile (· == ' ')).length (indent - c.column))

/-- Blank lines, as their line breaks, and the place after them and the next indentation. -/
def breaks (indent : Nat) : (fuel : Nat) → Cursor → List Char × Cursor
  | 0, c => ([], c)
  | fuel + 1, c =>
    let c := skipIndent indent c
    match c.lineBreak? with
    | none => ([], c)
    | some (b, c) =>
      let (bs, c) := breaks indent fuel c
      (b :: bs, c)

/-- Does a line of the scalar start at `c`? -/
def hasLine (indent : Nat) (c : Cursor) : Bool := c.column == indent && c.head != nul

def isBlankStart (c : Char) : Bool := c == ' ' || c == '\t'

/-- The lines of a scalar from `c` on, after blank lines `before`: the text without the line breaks
after the last line, those line breaks, and the place after them. -/
def lines (folded : Bool) (indent : Nat) : (fuel : Nat) → (before : List Char) → Cursor →
    List Char × List Char × List Char × Cursor
  | 0, before, c => ([], [], before, c)
  | fuel + 1, before, c =>
    if !hasLine indent c then ([], [], before, c)
    else
      let (line, after) := c.takeWhile (!isLineEnd ·)
      let (b, next) := match after.lineBreak? with
        | some (b, next) => ([b], next)
        | none => ([], after)
      let (bs, next) := breaks indent (next.rest.length + 1) next
      if hasLine indent next then
        let joint :=
          if folded ∧ b = ['\n'] ∧ !isBlankStart c.head ∧ !isBlankStart next.head then
            if bs.isEmpty then [' '] else []
          else b
        let (text, last, final, c) := lines folded indent fuel bs next
        (before ++ line ++ joint ++ text, last, final, c)
      else (before ++ line, b, bs, next)

/-- The block scalar at a place, whose parent is as deep as `parent`: its text, and the place after
it. -/
def scan (parent : Int) (c : Cursor) : Except Error (List Char × Cursor) := do
  let folded := c.head = '>'
  let (h, after) ← header c.mark c.step
  let least := (max (parent + 1) 1).toNat
  let fuel := after.rest.length + 1
  let (before, indent, first) := match h.increment with
    | none =>
      let (bs, deepest, first) := leading fuel 0 after
      (bs, max least deepest, first)
    | some n =>
      let indent := least + n - 1
      let (bs, first) := breaks indent fuel after
      (bs, indent, first)
  let (text, last, final, c) := lines folded indent fuel before first
  return (match h.chomping with
    | .strip => text
    | .clip => text ++ last
    | .keep => text ++ last ++ final, c)

end Scaffold.Yaml.Block
