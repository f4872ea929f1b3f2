import Scaffold.Descriptor.Node
import Scaffold.Eval.Basic
import Scaffold.Expr.Stack.Parser

/-!
# Active nodes

A node is active when its `if` condition holds and its `unless` condition does not; a condition
that is not stated does not hinder. The `unless` condition is looked at only when the `if`
condition holds. Conditions are texts in the stack syntax.
-/

namespace Scaffold

/-- Why a condition has no answer. -/
inductive ConditionError
  /-- The text is no expression. -/
  | rejected (e : SyntaxError)
  /-- The expression has no truth value. -/
  | failed (e : EvalError)
deriving Repr

def ConditionError.message : ConditionError → String
  | rejected e => e.message
  | failed e => e.message

/-- Is this an error of the condition? -/
def ConditionError.isReported : ConditionError → Bool
  | rejected _ => true
  | failed e => e.isReported

theorem ConditionError.isReported_eq_true_iff {e : ConditionError} :
    e.isReported = true ↔ e ≠ failed .tooManyDigits := by
  cases e with
  | rejected e => simp [isReported]
  | failed e => simp [isReported, EvalError.isReported_eq_true_iff]

/-- Does the condition `text` hold? -/
def Bindings.satisfy (b : Bindings) (text : String) : Except ConditionError Bool := do
  let e ← (Stack.parse text).mapError .rejected
  (e.holds b).mapError .failed

namespace Descriptor.Node

/-- The text of the `if` condition. -/
def onlyIf (n : Node) : Option String := n.text? .onlyIf

/-- The text of the `unless` condition. -/
def exceptIf (n : Node) : Option String := n.text? .exceptIf

/-- Is the node active under the bindings? -/
def isActive (b : Bindings) (n : Node) : Except ConditionError Bool := do
  let admitted ← match n.onlyIf with
    | none => pure true
    | some text => b.satisfy text
  if admitted then
    match n.exceptIf with
    | none => return true
    | some text => return !(← b.satisfy text)
  else return false

end Descriptor.Node

end Scaffold
