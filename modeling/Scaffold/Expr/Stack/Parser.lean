import Scaffold.Expr.Stack.Token

/-!
# Reading the stack syntax

The syntax has no precedence table: an operator applies to the innermost open scope. A scope is the
whole text, a parenthesised group, a negation `!( … )`, or an operand scope, which opens when a
value follows a connective so that `==` can take that value before the connective does. The machine
takes one token at a time; `parse` is the reading of a whole text.
-/

namespace Scaffold.Stack

/-- What opened a scope. -/
inductive Scope.Kind
  | root
  | group
  | operand
  | negation
deriving DecidableEq, Repr

/-- An operator that waits for its right operand, and its index. -/
structure Pending where
  op : Operator
  index : Nat
deriving DecidableEq, Repr

/-- One open scope: the tree so far and at most one operator waiting for its right operand. -/
structure Scope where
  kind : Scope.Kind
  index : Nat
  node : Option Expr := none
  pending : Option Pending := none
deriving DecidableEq, Repr

/-- The open scopes, innermost first, and the number of groups among them. -/
structure State where
  top : Scope
  below : List Scope
  groups : Nat
deriving DecidableEq, Repr

/-- The outcome of a move of the machine. -/
abbrev Move (α : Type) := Except Fault.Located α

namespace Scope

/-- A scope that the parser closes by itself: it was opened by an operand or a negation. -/
def isImplicit (s : Scope) : Bool := s.kind == .operand || s.kind == .negation

/-- An implicit scope that holds a finished condition. -/
def isComplete (s : Scope) : Bool :=
  s.isImplicit && s.pending.isNone && s.node.any (!·.isLeaf)

/-- Gives the waiting operator `p` of `s` its right operand, which begins at `index`. -/
def resolve (s : Scope) (p : Pending) (operand : Expr) (index : Nat) : Move Scope :=
  match p.op, s.node with
  | .not, _ => .ok { s with node := some (.not operand), pending := none }
  | .comparison op, some left =>
    if operand.isLeaf then
      .ok { s with node := some (.comparison op left operand), pending := none }
    else .error ⟨index, .invalidOperand p.op .right⟩
  | .connective op, some left =>
    if operand.isLeaf then .error ⟨index, .invalidOperand p.op .right⟩
    else .ok { s with node := some (.condition op left operand), pending := none }
  | _, none => .error ⟨index, .invalidState⟩

/-- Closes `inner` into the scope below it. -/
def absorb (outer inner : Scope) : Move Scope :=
  match inner.pending, inner.node with
  | some p, _ => .error ⟨p.index, .noRightOperand p.op⟩
  | none, none => .error ⟨inner.index, .noLeftOperand none⟩
  | none, some node =>
    match outer.pending, outer.node with
    | some p, _ => outer.resolve p node inner.index
    | none, none => .ok { outer with node := some node }
    | none, some _ => .error ⟨inner.index, .invalidState⟩

/-- Closes `top` and then the scopes below it as long as `p` holds of the innermost one and
another one lies below it. -/
def closeWhile (p : Scope → Bool) (top : Scope) : List Scope → Move (Scope × List Scope)
  | [] => .ok (top, [])
  | outer :: below =>
    if p top then do closeWhile p (← outer.absorb top) below else .ok (top, outer :: below)

end Scope

namespace State

/-- The state before the first token. -/
def start : State := ⟨⟨.root, 0, none, none⟩, [], 0⟩

/-- All open scopes, innermost first. -/
def scopes (st : State) : List Scope := st.top :: st.below

/-- Closes scopes from the inside while `p` holds of the innermost one. -/
def closeWhile (st : State) (p : Scope → Bool) : Move State := do
  let (top, below) ← Scope.closeWhile p st.top st.below
  return { st with top, below }

/-- Opens a scope. -/
def push (st : State) (s : Scope) : State := { st with top := s, below := st.top :: st.below }

/-- An operand arrives that begins with `first` at `index`. -/
def arrive (st : State) (operand : Expr) (first : Char) (index : Nat) : Move State :=
  match st.top.pending, st.top.node with
  | none, some _ => .error ⟨index, .unexpected (some first) none⟩
  | none, none => .ok { st with top := { st.top with node := some operand } }
  | some p, _ =>
    match p.op, operand.isLeaf with
    | .connective _, true => .ok (st.push ⟨.operand, index, some operand, none⟩)
    | _, _ => do return { st with top := ← st.top.resolve p operand index }

/-- Makes sure that an operand can begin, with `first` at `index`. -/
def expectOperand (st : State) (first : Char) (index : Nat) : Move State := do
  let st ← st.closeWhile Scope.isComplete
  if st.top.node.isSome && st.top.pending.isNone then
    throw ⟨index, .unexpected (some first) none⟩
  return st

/-- Opens a group. -/
def openGroup (st : State) (index : Nat) : Move State := do
  let st ← st.expectOperand '(' index
  return { st.push ⟨.group, index, none, none⟩ with groups := st.groups + 1 }

/-- Opens a negation. -/
def openNegation (st : State) (index : Nat) : Move State := do
  let st ← st.expectOperand '!' index
  return st.push ⟨.negation, index, none, some ⟨.not, index⟩⟩

/-- Closes the innermost group. -/
def closeGroup (st : State) (index : Nat) : Move State := do
  let st ← st.closeWhile Scope.isImplicit
  match st.groups, st.below with
  | groups + 1, outer :: below =>
    match st.top.pending, st.top.node with
    | some p, _ => throw ⟨p.index, .noRightOperand p.op⟩
    | none, none => throw ⟨index, .unexpected (some ')') none⟩
    | none, some node => arrive ⟨outer, below, groups⟩ node '(' st.top.index
  | _, _ => throw ⟨index, .unmatched ')'⟩

/-- The operator that a sign means, which the tree on its left decides. -/
def operatorOf : Sign → (left : Expr) → Operator
  | .equal, left => if left.isLeaf then .comparison .equal else .connective .is
  | .notEqual, left => if left.isLeaf then .comparison .notEqual else .connective .isNot
  | .and, _ => .connective .and
  | .or, _ => .connective .or
  | .xor, _ => .connective .xor

/-- The operator that messages name for a sign whose left operand is missing. -/
def nominal : Sign → Operator
  | .equal => .comparison .equal
  | .notEqual => .comparison .notEqual
  | .and => .connective .and
  | .or => .connective .or
  | .xor => .connective .xor

/-- An operator sign arrives. -/
def operate (st : State) (sign : Sign) (index : Nat) : Move State := do
  let st ← st.closeWhile Scope.isComplete
  match st.top.pending, st.top.node with
  | some _, _ => throw ⟨index, .doubleOperator (nominal sign)⟩
  | none, none => throw ⟨index, .noLeftOperand (some (nominal sign))⟩
  | none, some left =>
    let op := operatorOf sign left
    match op, left.isLeaf with
    | .connective _, true => throw ⟨index, .invalidOperand op .left⟩
    | _, _ => return { st with top := { st.top with pending := some ⟨op, index⟩ } }

/-- One token. -/
def step (st : State) (t : Token) : Move State :=
  match t.lexeme with
  | .opening => st.openGroup t.start
  | .closing => st.closeGroup t.start
  | .bang => st.openNegation t.start
  | .sign s => st.operate s t.start
  | .reference name => st.arrive (.leaf (.reference name)) '$' t.start
  | .literal q text => st.arrive (.leaf (.literal text)) q t.start

/-- The tree of the whole text, once its tokens are used up. -/
def finish (st : State) : Move Expr := do
  if st.groups ≠ 0 then
    match st.scopes.find? (·.kind == .group) with
    | some g => throw ⟨g.index, .unmatched '('⟩
    | none => throw ⟨0, .invalidState⟩
  let st ← st.closeWhile fun _ => true
  match st.top.pending, st.top.node with
  | some p, _ => throw ⟨p.index, .noRightOperand p.op⟩
  | none, none => throw ⟨0, .noLeftOperand none⟩
  | none, some node => return node

end State

/-- The tree of the scanned tokens; a fault of the scan counts once the tokens before it are
accepted. -/
def Scan.tree (s : Scan) : Move Expr := do
  let st ← s.tokens.foldlM State.step State.start
  match s.fault with
  | some e => throw e
  | none => st.finish

/-- Reads an expression in the stack syntax. -/
def parse (text : String) : Except SyntaxError Expr :=
  (Scan.run 0 text.toList).tree.mapError (·.within text)

end Scaffold.Stack
