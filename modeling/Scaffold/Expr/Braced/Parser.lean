import Scaffold.Expr.Braced.Token
import Scaffold.Expr.Braced.Tree

/-!
# Reading the braced syntax

Precedence, lowest first: `||`, `&&`, `==` and `!=`, `contains`, `!`; binary operators group to the
left. The machine keeps the open parentheses and the operators that wait for their right operand.
A token is accepted as soon as some continuation of the text makes it right, so the first fault is
at the earliest place where the text cannot go on.
-/

namespace Scaffold.Braced

/-- What is open to the left of the current operand. -/
inductive Frame
  | paren (start : Nat)
  | not (start : Nat)
  | binary (op : Infix) (start : Nat) (left : Tree)
deriving DecidableEq, Repr

/-- A finished operand and the index at which it begins, its parentheses included. -/
structure Operand where
  tree : Tree
  start : Nat
deriving DecidableEq, Repr

/-- What the text may go on with. -/
inductive Phase
  /-- An operand is due. -/
  | operand
  /-- An operand is complete: an operator or a closing parenthesis may follow. -/
  | operator (last : Operand)
  /-- After `[`: an item or `]`. -/
  | arrayStart (start : Nat)
  /-- After an item of an array, the items in reverse: a comma or `]`. -/
  | arrayItem (start : Nat) (items : List String)
  /-- After a comma in an array: an item. -/
  | arrayComma (start : Nat) (items : List String)
deriving DecidableEq, Repr

/-- The open frames, innermost first, and the phase. -/
structure State where
  frames : List Frame
  phase : Phase
deriving DecidableEq, Repr

/-- Gives the frames that bind at least as tightly as `level` their right operand. -/
def reduce (level : Nat) (last : Operand) : List Frame → Operand × List Frame
  | .not start :: frames => reduce level ⟨.not last.tree, start⟩ frames
  | .binary op start left :: frames =>
    if level ≤ op.level then reduce level ⟨.binary op start left last.tree, start⟩ frames
    else (last, .binary op start left :: frames)
  | .paren start :: frames => (last, .paren start :: frames)
  | [] => (last, [])

namespace Token

/-- The binary operator that a token is. -/
def binary? : Token → Option Infix
  | or => some .or
  | and => some .and
  | equal => some .equal
  | notEqual => some .notEqual
  | contains => some .contains
  | _ => none

/-- The leaf that a token is. -/
def leaf? : Token → Option Leaf
  | reference name => some (.reference name)
  | string _ text => some (.literal text)
  | true => some (.truth .true)
  | false => some (.truth .false)
  | _ => none

end Token

namespace State

def start : State := ⟨[], .operand⟩

/-- The state after token `t` at `index`, or none when `t` cannot stand there. -/
def step? (st : State) (t : Token) (index : Nat) : Option State :=
  match st.phase with
  | .operand =>
    match t with
    | .opening => some ⟨.paren index :: st.frames, .operand⟩
    | .bang => some ⟨.not index :: st.frames, .operand⟩
    | .openBracket => some { st with phase := .arrayStart index }
    | t => t.leaf?.map fun l => { st with phase := .operator ⟨.leaf l, index⟩ }
  | .operator last =>
    match t, t.binary? with
    | .closing, _ =>
      match reduce 0 last st.frames with
      | (inner, .paren start :: frames) => some ⟨frames, .operator ⟨inner.tree, start⟩⟩
      | _ => none
    | _, some op =>
      let (left, frames) := reduce op.level last st.frames
      some ⟨.binary op left.start left.tree :: frames, .operand⟩
    | _, none => none
  | .arrayStart start =>
    match t with
    | .string _ text => some { st with phase := .arrayItem start [text] }
    | .closeBracket => some { st with phase := .operator ⟨.leaf (.array []), start⟩ }
    | _ => none
  | .arrayItem start items =>
    match t with
    | .comma => some { st with phase := .arrayComma start items }
    | .closeBracket => some { st with phase := .operator ⟨.leaf (.array items.reverse), start⟩ }
    | _ => none
  | .arrayComma start items =>
    match t with
    | .string _ text => some { st with phase := .arrayItem start (text :: items) }
    | _ => none

/-- The tree of the whole text, when the text may end here. -/
def finish? (st : State) : Option Tree :=
  match st.phase with
  | .operator last =>
    match reduce 0 last st.frames with
    | (whole, []) => some whole.tree
    | _ => none
  | _ => none

/-- Is an operand due? -/
def operandDue (st : State) : Bool := st.phase == .operand

/-- Reads `cs`, which begins at index `i`. -/
def run (st : State) (i : Nat) : List Char → Except Fault.Located Tree
  | [] =>
    match st.finish? with
    | some tree => .ok tree
    | none => .error ⟨i, .unexpected none none⟩
  | c :: cs =>
    if isBlank c then st.run (i + 1) cs
    else match _h : tokenAt st.operandDue (c :: cs) with
      | none => .error ⟨i, .unexpected (some c) none⟩
      | some (t, rest) =>
        match st.step? t i with
        | none => .error ⟨i, .unexpectedToken t.lexeme⟩
        | some st => st.run (i + ((c :: cs).length - rest.length)) rest
termination_by cs => cs.length
decreasing_by
  · simp
  · exact length_lt_of_tokenAt _h

end State

/-- The grammar tree of a text. -/
def parseTree (text : String) : Except Fault.Located Tree := State.start.run 0 text.toList

/-- Reads an expression in the braced syntax. Faults of the grammar come before those of operand
shapes. -/
def parse (text : String) : Except SyntaxError Expr :=
  ((parseTree text).bind Tree.toExpr).mapError (·.within text)

end Scaffold.Braced
