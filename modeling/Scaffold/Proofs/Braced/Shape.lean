import Scaffold.Expr.Braced.Tree

/-!
# Shapes of operands

An equality compares two values or two conditions, and `contains` two values. `Tree.Shaped` asks
this of every node, `Tree.ast` is the expression of a tree that meets it, and `Tree.misfit?` is the
complaint about a node that does not. `Tree.toExpr_eq`: the expression is computed exactly when no
node is at fault, and otherwise the first fault in post-order is reported.
-/

namespace Scaffold.Braced.Tree

def isLeaf : Tree → Bool
  | leaf _ => true
  | _ => false

/-- All nodes: operands before their operator, the left one before the right one. -/
def postorder : Tree → List Tree
  | leaf l => [leaf l]
  | not t => t.postorder ++ [not t]
  | binary op i l r => l.postorder ++ (r.postorder ++ [binary op i l r])

/-- Do the operands of this node suit its operator? -/
def Fits : Tree → Prop
  | binary .equal _ l r | binary .notEqual _ l r => l.isLeaf = r.isLeaf
  | binary .contains _ l r => l.isLeaf = true ∧ r.isLeaf = true
  | _ => True

instance : DecidablePred Fits
  | binary .equal _ l r | binary .notEqual _ l r =>
    inferInstanceAs (Decidable (l.isLeaf = r.isLeaf))
  | binary .contains _ l r =>
    inferInstanceAs (Decidable (l.isLeaf = true ∧ r.isLeaf = true))
  | binary .or _ _ _ | binary .and _ _ _ | leaf _ | not _ => inferInstanceAs (Decidable True)

/-- The operands of every node suit its operator. -/
def Shaped (t : Tree) : Prop := ∀ node ∈ t.postorder, node.Fits

instance : DecidablePred Shaped := fun t => inferInstanceAs (Decidable (∀ node ∈ t.postorder, _))

/-- The complaint about a node whose operands do not suit its operator. The left operand of an
equality says which operator it is, so it is the right one that is wrong. -/
def misfit? : Tree → Option Fault.Located
  | binary .equal i l r =>
    match l.isLeaf, r.isLeaf with
    | true, false => some ⟨i, .invalidOperand (.comparison .equal) .right⟩
    | false, true => some ⟨i, .invalidOperand (.connective .is) .right⟩
    | _, _ => none
  | binary .notEqual i l r =>
    match l.isLeaf, r.isLeaf with
    | true, false => some ⟨i, .invalidOperand (.comparison .notEqual) .right⟩
    | false, true => some ⟨i, .invalidOperand (.connective .isNot) .right⟩
    | _, _ => none
  | binary .contains i l r =>
    match l.isLeaf, r.isLeaf with
    | false, _ => some ⟨i, .invalidOperand (.comparison .contains) .left⟩
    | true, false => some ⟨i, .invalidOperand (.comparison .contains) .right⟩
    | true, true => none
  | _ => none

/-- The expression of a tree whose operands have their shapes. -/
def ast : Tree → Expr
  | leaf l => .leaf l
  | not t => .not t.ast
  | binary .or _ l r => .condition .or l.ast r.ast
  | binary .and _ l r => .condition .and l.ast r.ast
  | binary .equal _ l r =>
    if l.isLeaf then .comparison .equal l.ast r.ast else .condition .is l.ast r.ast
  | binary .notEqual _ l r =>
    if l.isLeaf then .comparison .notEqual l.ast r.ast else .condition .isNot l.ast r.ast
  | binary .contains _ l r => .comparison .contains l.ast r.ast

variable {t : Tree} {e : Fault.Located}

@[simp] theorem isLeaf_ast (t : Tree) : t.ast.isLeaf = t.isLeaf := by
  cases t with
  | leaf l => rfl
  | not t => rfl
  | binary op i l r =>
    cases op with
    | or | and | contains => rfl
    | equal | notEqual => rw [ast]; split <;> rfl

theorem misfit?_eq_none_iff : t.misfit? = none ↔ t.Fits := by
  cases t with
  | leaf l => simp [misfit?, Fits]
  | not t => simp [misfit?, Fits]
  | binary op i l r =>
    cases op <;> cases hl : l.isLeaf <;> cases hr : r.isLeaf <;> simp [misfit?, Fits, hl, hr]

theorem shaped_iff : t.Shaped ↔ t.postorder.findSome? misfit? = none := by
  simp only [Shaped, List.findSome?_eq_none_iff, misfit?_eq_none_iff]

theorem exists_invalidOperand_of_misfit? (h : t.misfit? = some e) :
    ∃ op side, e.fault = .invalidOperand op side := by
  unfold misfit? at h
  split at h
  · split at h <;> cases h <;> exact ⟨_, _, rfl⟩
  · split at h <;> cases h <;> exact ⟨_, _, rfl⟩
  · split at h <;> cases h <;> exact ⟨_, _, rfl⟩
  · cases h

theorem combine_eq (op : Infix) (i : Nat) (l r : Tree) :
    combine op i l.ast r.ast = match (binary op i l r).misfit? with
      | some e => .error e
      | none => .ok (binary op i l r).ast := by
  cases op <;> cases hl : l.isLeaf <;> cases hr : r.isLeaf <;>
    simp [combine, equality, misfit?, ast, hl, hr]

theorem toExpr_eq (t : Tree) :
    t.toExpr = match t.postorder.findSome? misfit? with
      | some e => .error e
      | none => .ok t.ast := by
  induction t with
  | leaf l => rfl
  | not t ih =>
    rw [toExpr, ih, postorder, List.findSome?_append]
    cases t.postorder.findSome? misfit? <;> rfl
  | binary op i l r ihl ihr =>
    rw [toExpr, ihl, ihr, postorder, List.findSome?_append, List.findSome?_append]
    cases l.postorder.findSome? misfit? with
    | some e => rfl
    | none =>
      cases r.postorder.findSome? misfit? with
      | some e => rfl
      | none =>
        show combine op i l.ast r.ast = _
        rw [combine_eq]
        simp only [Option.none_or, List.findSome?_cons, List.findSome?_nil]
        cases (binary op i l r).misfit? <;> rfl

theorem toExpr_eq_ok_iff {e : Expr} : t.toExpr = .ok e ↔ t.Shaped ∧ t.ast = e := by
  rw [toExpr_eq, shaped_iff]
  cases t.postorder.findSome? misfit? <;> simp

theorem toExpr_eq_error_iff :
    t.toExpr = .error e ↔ t.postorder.findSome? misfit? = some e := by
  rw [toExpr_eq]
  cases t.postorder.findSome? misfit? <;> simp

end Scaffold.Braced.Tree
