import Scaffold.Expr.Fault

/-!
# Grammar trees of the braced syntax

A `Tree` is a text of the braced syntax as the grammar groups it, before the operands are checked
for their shape. `Tree.toExpr` checks them, operands before operators and left before right.
-/

namespace Scaffold.Braced

/-- The binary operators. -/
inductive Infix
  | or
  | and
  | equal
  | notEqual
  | contains
deriving DecidableEq, Repr

/-- How tightly an operator binds. -/
def Infix.level : Infix → Nat
  | or => 0
  | and => 1
  | equal => 2
  | notEqual => 2
  | contains => 3

/-- Grammar trees; a binary node knows the index at which its left operand begins. -/
inductive Tree
  | leaf (l : Leaf)
  | not (operand : Tree)
  | binary (op : Infix) (start : Nat) (left right : Tree)
deriving DecidableEq, Repr

namespace Tree

/-- An equality of two values or of two conditions. -/
def equality (ofValues : Comparison) (ofConditions : Connective) (start : Nat) (l r : Expr) :
    Except Fault.Located Expr :=
  match l.isLeaf, r.isLeaf with
  | true, true => .ok (.comparison ofValues l r)
  | false, false => .ok (.condition ofConditions l r)
  | true, false => .error ⟨start, .invalidOperand (.comparison ofValues) .right⟩
  | false, true => .error ⟨start, .invalidOperand (.connective ofConditions) .right⟩

/-- The expression of an operator and its operands. -/
def combine (op : Infix) (start : Nat) (l r : Expr) : Except Fault.Located Expr :=
  match op with
  | .or => .ok (.condition .or l r)
  | .and => .ok (.condition .and l r)
  | .equal => equality .equal .is start l r
  | .notEqual => equality .notEqual .isNot start l r
  | .contains =>
    if !l.isLeaf then .error ⟨start, .invalidOperand (.comparison .contains) .left⟩
    else if !r.isLeaf then .error ⟨start, .invalidOperand (.comparison .contains) .right⟩
    else .ok (.comparison .contains l r)

/-- The expression that a grammar tree stands for. -/
def toExpr : Tree → Except Fault.Located Expr
  | leaf l => .ok (.leaf l)
  | not operand => do return .not (← operand.toExpr)
  | binary op start left right => do
    let l ← left.toExpr
    let r ← right.toExpr
    combine op start l r

end Tree

end Scaffold.Braced
