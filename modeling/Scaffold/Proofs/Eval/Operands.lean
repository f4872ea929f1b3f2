import Scaffold.Proofs.Eval.Bindings
import Scaffold.Proofs.Expr.Nodes

/-!
# Operands of the wrong kind

The stack syntax joins conditions and compares values, so most checks of operand kinds cannot fail
on what it reads. `Expr.trace` evaluates as `Expr.eval` does and keeps the node at which it stops.
`operand_error_of_parse`: on a tree of the stack syntax an operand has the wrong kind only at a
`Clash`, an equality of two leaves of different kinds or the negation of a leaf that is no truth
value; every other node yields a truth value.
-/

namespace Scaffold

open Scaffold.Expr (demandTruth)

variable {b : Bindings} {e n : Expr} {v : Value} {err : EvalError} {operator : String}
  {found expected : Value.Kind}

/-! ### The node at which an evaluation stops -/

namespace Expr

/-- The value of an expression, or the node whose own check fails and the error. -/
def trace (b : Bindings) : Expr → Except (Expr × EvalError) Value
  | leaf l => (l.eval b).mapError (leaf l, ·)
  | not operand => do
    let v ← operand.trace b
    let t ← (demandTruth Operator.not.symbol v).mapError (not operand, ·)
    return .truth !t
  | comparison op left right => do
    let l ← left.trace b
    let r ← right.trace b
    return .truth (← (compare op l r).mapError (comparison op left right, ·))
  | condition op left right => do
    let l ← left.trace b
    let lt ← (demandTruth op.symbol l).mapError (condition op left right, ·)
    let r ← right.trace b
    let rt ← (demandTruth op.symbol r).mapError (condition op left right, ·)
    return .truth (op.apply lt rt)
  | foreign kind => .error (foreign kind, .unsupportedNode kind)

theorem mapError_trace (b : Bindings) (e : Expr) : (e.trace b).mapError Prod.snd = e.eval b := by
  induction e with
  | leaf l => exact mapError_mapError fun _ => rfl
  | foreign kind => rfl
  | not operand ih =>
    simp only [trace, eval, mapError_bind, ih, mapError_mapError, implies_true]
    rfl
  | comparison op left right ihl ihr =>
    simp only [trace, eval, mapError_bind, ihl, ihr, mapError_mapError, implies_true]
    rfl
  | condition op left right ihl ihr =>
    simp only [trace, eval, mapError_bind, ihl, ihr, mapError_mapError, implies_true]
    rfl

theorem trace_eq_ok_iff : e.trace b = .ok v ↔ e.eval b = .ok v := by
  rw [← mapError_trace, mapError_eq_ok]

theorem eval_eq_error_iff : e.eval b = .error err ↔ ∃ n, e.trace b = .error (n, err) := by
  rw [← mapError_trace, mapError_eq_error]
  constructor
  · rintro ⟨⟨n, err'⟩, h, rfl⟩
    exact ⟨n, h⟩
  · rintro ⟨n, h⟩
    exact ⟨_, h, rfl⟩

/-- The check of a node itself fails, once its operands have values. -/
inductive Stops (b : Bindings) : Expr → EvalError → Prop
  | resolution {name : String} {err : EvalError} (h : b.resolve name = .error err) :
      Stops b (leaf (.reference name)) err
  | foreign (kind : String) : Stops b (foreign kind) (.unsupportedNode kind)
  | negation {operand : Expr} {v : Value} {err : EvalError} (hv : operand.eval b = .ok v)
      (h : demandTruth Operator.not.symbol v = .error err) : Stops b (not operand) err
  | comparison {op : Comparison} {left right : Expr} {v w : Value} {err : EvalError}
      (hv : left.eval b = .ok v) (hw : right.eval b = .ok w) (h : compare op v w = .error err) :
      Stops b (comparison op left right) err
  | connective {op : Connective} {left right : Expr} {v : Value} {err : EvalError}
      (hv : left.eval b = .ok v ∨ right.eval b = .ok v)
      (h : demandTruth op.symbol v = .error err) : Stops b (condition op left right) err

/-- A trace ends at a node of the tree whose own check fails. -/
theorem stops_of_trace (h : e.trace b = .error (n, err)) : n ∈ e.nodes ∧ Stops b n err := by
  -- the operands come first, from left to right, and the check of the node itself last
  induction e with
  | leaf l =>
    obtain ⟨_, hl, he⟩ := mapError_eq_error.1 h
    cases he
    cases l with
    | reference name => exact ⟨self_mem_nodes _, .resolution hl⟩
    | literal _ | truth _ | array _ => cases hl
  | foreign kind =>
    cases h
    exact ⟨self_mem_nodes _, .foreign kind⟩
  | not operand ih =>
    simp only [trace, bind_eq_error, mapError_eq_error] at h
    rcases h with h | ⟨v, hv, ⟨_, hd, he⟩ | ⟨t, -, h⟩⟩
    · obtain ⟨hmem, hstops⟩ := ih h
      exact ⟨List.mem_cons_of_mem _ hmem, hstops⟩
    · cases he
      exact ⟨self_mem_nodes _, .negation (trace_eq_ok_iff.1 hv) hd⟩
    · cases h
  | comparison op left right ihl ihr =>
    simp only [trace, bind_eq_error, mapError_eq_error] at h
    rcases h with h | ⟨l, hv, h | ⟨r, hw, ⟨_, hc, he⟩ | ⟨t, -, h⟩⟩⟩
    · obtain ⟨hmem, hstops⟩ := ihl h
      exact ⟨List.mem_cons_of_mem _ (List.mem_append_left _ hmem), hstops⟩
    · obtain ⟨hmem, hstops⟩ := ihr h
      exact ⟨List.mem_cons_of_mem _ (List.mem_append_right _ hmem), hstops⟩
    · cases he
      exact ⟨self_mem_nodes _, .comparison (trace_eq_ok_iff.1 hv) (trace_eq_ok_iff.1 hw) hc⟩
    · cases h
  | condition op left right ihl ihr =>
    simp only [trace, bind_eq_error, mapError_eq_error] at h
    rcases h with h | ⟨l, hv, ⟨_, hd, he⟩ | ⟨lt, -, h | ⟨r, hw, ⟨_, hd, he⟩ | ⟨rt, -, h⟩⟩⟩⟩
    · obtain ⟨hmem, hstops⟩ := ihl h
      exact ⟨List.mem_cons_of_mem _ (List.mem_append_left _ hmem), hstops⟩
    · cases he
      exact ⟨self_mem_nodes _, .connective (.inl (trace_eq_ok_iff.1 hv)) hd⟩
    · obtain ⟨hmem, hstops⟩ := ihr h
      exact ⟨List.mem_cons_of_mem _ (List.mem_append_right _ hmem), hstops⟩
    · cases he
      exact ⟨self_mem_nodes _, .connective (.inr (trace_eq_ok_iff.1 hw)) hd⟩
    · cases h

/-- So whatever fails fails at a node. -/
theorem exists_stops_of_eval (h : e.eval b = .error err) : ∃ n ∈ e.nodes, Stops b n err := by
  obtain ⟨n, hn⟩ := eval_eq_error_iff.1 h
  obtain ⟨hmem, hstops⟩ := stops_of_trace hn
  exact ⟨n, hmem, hstops⟩

end Expr

/-! ### The checks of single nodes -/

theorem kind_eq_truth_iff : v.kind = .truth ↔ ∃ x, v = .truth x := by
  cases v <;> simp [Value.kind]

theorem demandTruth_eq_error_iff :
    demandTruth operator v = .error err ↔
      v.kind ≠ .truth ∧ err = .operandKind operator v.kind .truth := by
  cases v <;> simp [demandTruth, Value.kind, eq_comm]

theorem kind_ne_of_compare {op : Comparison} {w : Value} (hop : op = .equal ∨ op = .notEqual)
    (h : Expr.compare op v w = .error err) : v.kind ≠ w.kind := by
  intro hk
  rcases hop with rfl | rfl
  · rw [Expr.compare, if_pos hk] at h
    cases h
  · rw [Expr.compare, if_pos hk] at h
    cases h

theorem exists_operandKind_of_compare {op : Comparison} {w : Value}
    (h : Expr.compare op v w = .error err) :
    ∃ found expected, err = .operandKind op.symbol found expected := by
  cases op with
  | contains =>
    rw [Expr.compare] at h
    split at h
    · cases h
      exact ⟨_, _, rfl⟩
    · split at h <;> cases h
      exact ⟨_, _, rfl⟩
  | equal | notEqual =>
    rw [Expr.compare] at h
    split at h <;> cases h
    exact ⟨_, _, rfl⟩

theorem Bindings.resolve_ne_operandKind (b : Bindings) (name : String) :
    b.resolve name ≠ .error (.operandKind operator found expected) := by
  fun_induction Bindings.resolve b name <;> simp_all [EvalError.ofUnsupported_ne_operandKind]

/-- Whatever is no leaf has a truth value, if it has a value. -/
theorem Expr.exists_truth_of_eval (he : e.isLeaf = false) (h : e.eval b = .ok v) :
    ∃ x, v = .truth x := by
  cases e with
  | leaf l => cases he
  | foreign kind => cases h
  | not operand =>
    simp only [eval, bind_eq_ok] at h
    obtain ⟨_, -, t, -, h⟩ := h
    cases h
    exact ⟨_, rfl⟩
  | comparison op left right =>
    simp only [eval, bind_eq_ok] at h
    obtain ⟨_, -, _, -, t, -, h⟩ := h
    cases h
    exact ⟨_, rfl⟩
  | condition op left right =>
    simp only [eval, bind_eq_ok] at h
    obtain ⟨_, -, _, -, _, -, _, -, h⟩ := h
    cases h
    exact ⟨_, rfl⟩

theorem Expr.demandTruth_ne_error (he : e.isLeaf = false) (h : e.eval b = .ok v) :
    demandTruth operator v ≠ .error err := by
  intro herr
  obtain ⟨hk, -⟩ := demandTruth_eq_error_iff.1 herr
  exact hk (kind_eq_truth_iff.2 (exists_truth_of_eval he h))

/-! ### Trees of the stack syntax -/

/-- Operands that do not suit their node: two leaves of different kinds that are tested for equality,
or a leaf under a negation that is no truth value. -/
inductive Clash (b : Bindings) : Expr → Prop
  | equality {op : Comparison} {l r : Leaf} {v w : Value} (hop : op = .equal ∨ op = .notEqual)
      (hl : l.eval b = .ok v) (hr : r.eval b = .ok w) (hk : v.kind ≠ w.kind) :
      Clash b (.comparison op (.leaf l) (.leaf r))
  | negation {l : Leaf} {v : Value} (hl : l.eval b = .ok v) (hk : v.kind ≠ .truth) :
      Clash b (.not (.leaf l))

theorem Stack.WellFormed.clash (h : WellFormed n)
    (hstops : n.Stops b (.operandKind operator found expected)) : Clash b n := by
  cases hstops with
  | resolution hresolve => exact absurd hresolve (b.resolve_ne_operandKind _)
  | @negation operand v _ hv hd =>
    -- only a leaf can fail the check of a negation
    cases operand with
    | leaf l => exact .negation hv (demandTruth_eq_error_iff.1 hd).1
    | _ => exact absurd hd (Expr.demandTruth_ne_error rfl hv)
  | @comparison op left right v w _ hv hw hc =>
    obtain ⟨hop, ⟨hleft, hright⟩, -, -⟩ := h
    cases left with
    | leaf l =>
      cases right with
      | leaf r => exact .equality hop hv hw (kind_ne_of_compare hop hc)
      | _ => cases hright
    | _ => cases hleft
  | @connective op left right v _ hv hd =>
    obtain ⟨⟨hleft, hright⟩, -, -⟩ := h
    rcases hv with hv | hv
    · exact absurd hd (Expr.demandTruth_ne_error hleft hv)
    · exact absurd hd (Expr.demandTruth_ne_error hright hv)

theorem Operator.symbol_ne_condition (op : Operator) : op.symbol ≠ "condition" := by
  rcases op with op | op | -
  · cases op <;> decide
  · cases op <;> decide
  · decide

-- `condition` is the operator of no node.
theorem Expr.eval_ne_condition (b : Bindings) (e : Expr) :
    e.eval b ≠ .error (.operandKind "condition" found expected) := by
  intro h
  obtain ⟨n, -, hstops⟩ := exists_stops_of_eval h
  cases hstops with
  | resolution hresolve => exact b.resolve_ne_operandKind _ hresolve
  | negation hv hd =>
    exact Operator.not.symbol_ne_condition
      (EvalError.operandKind.inj (demandTruth_eq_error_iff.1 hd).2).1.symm
  | @comparison op _ _ _ _ _ hv hw hc =>
    obtain ⟨_, _, he⟩ := exists_operandKind_of_compare hc
    exact (Operator.comparison op).symbol_ne_condition (EvalError.operandKind.inj he).1.symm
  | @connective op _ _ _ _ hv hd =>
    exact (Operator.connective op).symbol_ne_condition
      (EvalError.operandKind.inj (demandTruth_eq_error_iff.1 hd).2).1.symm

/-- On a tree of the stack syntax no connective meets an operand of the wrong kind: such an error
comes from an equality of leaves of different kinds or from the negation of a leaf that is no truth
value. A tree that is no leaf has a truth value if it has a value, so only a leaf can fail to be a
condition. -/
theorem operand_error_of_parse (text : String) (t : Expr) (h : Stack.parse text = .ok t)
    (b : Bindings) :
    (∀ op l r operator found expected,
      t.trace b ≠ .error (.condition op l r, .operandKind operator found expected)) ∧
    (∀ operator found expected, t.eval b = .error (.operandKind operator found expected) →
      ∃ n ∈ t.nodes, t.trace b = .error (n, .operandKind operator found expected) ∧ Clash b n) ∧
    (t.isLeaf = false → ∀ v, t.eval b = .ok v → ∃ x, v = .truth x) ∧
    (∀ found expected, t.holds b = .error (.operandKind "condition" found expected) →
      ∃ l, t = .leaf l) := by
  have hwf : Stack.WellFormed t := (Stack.generates_of_parse h).wellFormed
  have hclash {n : Expr} {operator : String} {found expected : Value.Kind}
      (herr : t.trace b = .error (n, .operandKind operator found expected)) :
      n ∈ t.nodes ∧ Clash b n := by
    obtain ⟨hmem, hstops⟩ := Expr.stops_of_trace herr
    exact ⟨hmem, (hwf.of_mem_nodes hmem).clash hstops⟩
  refine ⟨?_, ?_, fun ht v => Expr.exists_truth_of_eval ht, ?_⟩
  · intro op l r operator found expected herr
    cases (hclash herr).2
  · intro operator found expected herr
    obtain ⟨n, hn⟩ := Expr.eval_eq_error_iff.1 herr
    obtain ⟨hmem, hn'⟩ := hclash hn
    exact ⟨n, hmem, hn, hn'⟩
  · intro found expected herr
    rcases bind_eq_error.1 herr with herr | ⟨v, hv, hd⟩
    · exact absurd herr (t.eval_ne_condition b)
    · cases t with
      | leaf l => exact ⟨l, rfl⟩
      | _ => exact absurd hd (Expr.demandTruth_ne_error rfl hv)

/-- The alias `a` stands for a text, which cannot be negated. -/
theorem operand_error_of_negated_text :
    ∃ t n, Stack.parse "$c != 'x' && !($a)" = .ok t ∧
      t.trace [("c", .plain (.text "y")), ("a", .sameAs "c")] =
        .error (n, .operandKind "!" .text .truth) ∧
      Clash [("c", .plain (.text "y")), ("a", .sameAs "c")] n := by
  have ht : Stack.parse "$c != 'x' && !($a)" =
      .ok (.condition .and (.comparison .notEqual (.leaf (.reference "c")) (.leaf (.literal "x")))
        (.not (.leaf (.reference "a")))) := by decide +kernel
  obtain ⟨-, herr, -⟩ := operand_error_of_parse _ _ ht
    [("c", .plain (.text "y")), ("a", .sameAs "c")]
  obtain ⟨n, -, hn, hclash⟩ := herr "!" .text .truth (by cbv)
  exact ⟨_, n, ht, hn, hclash⟩

end Scaffold
