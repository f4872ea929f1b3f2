import Scaffold.Expr.Basic
import Scaffold.Value.Datum

/-!
# Evaluation

An expression is evaluated against bindings. Nothing is skipped: both operands of an operator are
evaluated whatever the first one yields. An alias is followed until it reaches a value; a name that
is unbound, bound to null, or met a second time has no value.
-/

namespace Scaffold

/-- Why an expression has no value. -/
inductive EvalError
  | unresolved (name : String)
  /-- `operator` was given a value of kind `found` where it takes `expected`. -/
  | operandKind (operator : String) (found expected : Value.Kind)
  | unsupportedValue (name : String) (datum : Datum)
  /-- A datum has no value, and holds an integer with too many digits for the message. -/
  | tooManyDigits
  | unsupportedNode (kind : String)
deriving Repr

namespace EvalError

def message : EvalError → String
  | unresolved name => s!"Unresolved variable: {name}"
  | operandKind operator found expected =>
    s!"Invalid value type: {found.name}, operator: {operator} (expected {expected.name})"
  | unsupportedValue name datum => s!"Unsupported value for variable '{name}': {datum.shown}"
  | tooManyDigits => Number.tooManyDigits none
  | unsupportedNode kind => s!"Unsupported node: {kind}"

/-- Is this an error of the expression? The failure to write a message is none. -/
def isReported : EvalError → Bool
  | tooManyDigits => false
  | _ => true

/-- What comes of a variable whose datum has no value. -/
def ofUnsupported (name : String) (d : Datum) : EvalError :=
  if d.isShowable then unsupportedValue name d else tooManyDigits

theorem isReported_eq_true_iff {e : EvalError} : e.isReported = true ↔ e ≠ tooManyDigits := by
  cases e <;> simp [isReported]

section OfUnsupported

variable {name other : String} {d d' : Datum}

theorem ofUnsupported_eq_unsupportedValue_iff :
    ofUnsupported name d = unsupportedValue other d' ↔
      (name = other ∧ d = d') ∧ d.isShowable = true := by
  unfold ofUnsupported
  split
  · next h => simp [h]
  · next h => simp [h]

theorem ofUnsupported_eq_tooManyDigits_iff :
    ofUnsupported name d = tooManyDigits ↔ d.isShowable = false := by
  unfold ofUnsupported
  split
  · next h => simp [h]
  · next h => simpa using h

theorem ofUnsupported_ne_unresolved : ofUnsupported name d ≠ unresolved other := by
  unfold ofUnsupported
  split <;> simp

theorem ofUnsupported_ne_operandKind {operator : String} {found expected : Value.Kind} :
    ofUnsupported name d ≠ operandKind operator found expected := by
  unfold ofUnsupported
  split <;> simp

end OfUnsupported

end EvalError

/-- The value of a variable. A binding is dropped once its alias is followed, so that a name met
again counts as unbound. -/
def Bindings.resolve (b : Bindings) (name : String) : Except EvalError Value :=
  match _h : b.lookup name with
  | none => .error (.unresolved name)
  | some d =>
    match d.read with
    | .error _ => .error (.ofUnsupported name d)
    | .ok .missing => .error (.unresolved name)
    | .ok (.value v) => .ok v
    | .ok (.sameAs other) => Bindings.resolve (b.without name) other
termination_by b.length
decreasing_by exact Bindings.length_without_lt (by simp [_h])

/-- The value of a leaf. -/
def Leaf.eval (b : Bindings) : Leaf → Except EvalError Value
  | .literal text => .ok (.text text)
  | .reference name => b.resolve name
  | .truth value => .ok (.truth value)
  | .array items => .ok (.array items)

namespace Expr

/-- The truth value in `v`, which `operator` takes. -/
def demandTruth (operator : String) : Value → Except EvalError Bool
  | .truth b => .ok b
  | v => .error (.operandKind operator v.kind .truth)

/-- A comparison of two values. -/
def compare (op : Comparison) (l r : Value) : Except EvalError Bool :=
  match op with
  | .contains =>
    if l.kind ≠ .array then .error (.operandKind op.symbol l.kind .array)
    else if r.kind ≠ .text then .error (.operandKind op.symbol r.kind .text)
    else .ok (l.hasItem r)
  | .equal =>
    if l.kind = r.kind then .ok (l == r) else .error (.operandKind op.symbol r.kind l.kind)
  | .notEqual =>
    if l.kind = r.kind then .ok (l != r) else .error (.operandKind op.symbol r.kind l.kind)

/-- The value of an expression. -/
def eval (b : Bindings) : Expr → Except EvalError Value
  | leaf l => l.eval b
  | not operand => do
    let v ← operand.eval b
    let t ← demandTruth Operator.not.symbol v
    return .truth !t
  | comparison op left right => do
    let l ← left.eval b
    let r ← right.eval b
    return .truth (← compare op l r)
  | condition op left right => do
    let l ← left.eval b
    let lt ← demandTruth op.symbol l
    let r ← right.eval b
    let rt ← demandTruth op.symbol r
    return .truth (op.apply lt rt)
  | foreign kind => .error (.unsupportedNode kind)

/-- The truth value of an expression that has to be a condition. -/
def holds (b : Bindings) (e : Expr) : Except EvalError Bool := do
  demandTruth "condition" (← e.eval b)

end Expr

end Scaffold
