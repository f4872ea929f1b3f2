import Scaffold.Eval.Basic
import Scaffold.Proofs.Outcome

/-!
# The kind of an expression

`Expr.kindFrom` finds the kind of an expression, or the error of its evaluation, from what each
variable resolves to: a kind or an error. It sees no value and still says all about an evaluation but
the value itself (`map_kind_eval`), so that bindings with the same kinds fail alike.
-/

namespace Scaffold

/-- What the resolution of a variable comes to, but for the value. -/
def Bindings.kindOf (b : Bindings) (name : String) : Except EvalError Value.Kind :=
  (b.resolve name).map Value.kind

namespace Expr

/-- `operator` takes truth values only. -/
def requireTruth (operator : String) (k : Value.Kind) : Except EvalError Unit :=
  if k = .truth then .ok () else .error (.operandKind operator k .truth)

/-- `contains` takes an array and a text, the equalities take two values of one kind. -/
def requireComparable (op : Comparison) (l r : Value.Kind) : Except EvalError Unit :=
  match op with
  | .contains =>
    if l ≠ .array then .error (.operandKind op.symbol l .array)
    else if r ≠ .text then .error (.operandKind op.symbol r .text)
    else .ok ()
  | .equal | .notEqual => if l = r then .ok () else .error (.operandKind op.symbol r l)

/-- The kind of an expression whose variables have the given kinds, or the error that comes first. -/
def kindFrom (kinds : String → Except EvalError Value.Kind) : Expr → Except EvalError Value.Kind
  | leaf (.literal _) => .ok .text
  | leaf (.truth _) => .ok .truth
  | leaf (.array _) => .ok .array
  | leaf (.reference name) => kinds name
  | not operand => do
    let k ← operand.kindFrom kinds
    requireTruth Operator.not.symbol k
    return .truth
  | comparison op left right => do
    let l ← left.kindFrom kinds
    let r ← right.kindFrom kinds
    requireComparable op l r
    return .truth
  | condition op left right => do
    let l ← left.kindFrom kinds
    requireTruth op.symbol l
    let r ← right.kindFrom kinds
    requireTruth op.symbol r
    return .truth
  | foreign kind => .error (.unsupportedNode kind)

/-- The names that an expression refers to. -/
def references : Expr → List String
  | leaf (.reference name) => [name]
  | leaf (.literal _) | leaf (.truth _) | leaf (.array _) => []
  | not operand => operand.references
  | condition _ left right => left.references ++ right.references
  | comparison _ left right => left.references ++ right.references
  | foreign _ => []

/-! ### The checks against the operations -/

theorem map_demandTruth (operator : String) (v : Value) :
    (demandTruth operator v).map (fun _ => ()) = requireTruth operator v.kind := by
  cases v <;> rfl

theorem map_compare (op : Comparison) (l r : Value) :
    (compare op l r).map (fun _ => ()) = requireComparable op l.kind r.kind := by
  cases op with
  | contains =>
    rw [compare, requireComparable]
    split
    · rfl
    · split <;> rfl
  | equal | notEqual =>
    rw [compare, requireComparable]
    split <;> rfl

theorem map_kind_bind {x : Except EvalError Bool} {f : Bool → Bool} :
    (do let t ← x; return Value.truth (f t)).map Value.kind =
      (do x.map (fun _ => ()); return .truth) := by
  cases x <;> rfl

variable (b : Bindings) (e : Expr)

/-- The checker says all about an evaluation but the value. -/
theorem map_kind_eval : (e.eval b).map Value.kind = e.kindFrom b.kindOf := by
  induction e with
  | leaf l => cases l <;> rfl
  | foreign kind => rfl
  | not operand ih =>
    rw [eval, kindFrom, ← ih]
    cases operand.eval b with
    | error err => rfl
    | ok v => exact map_kind_bind.trans (by rw [map_demandTruth]; rfl)
  | comparison op left right ihl ihr =>
    rw [eval, kindFrom, ← ihl, ← ihr]
    cases left.eval b with
    | error err => rfl
    | ok l =>
      cases right.eval b with
      | error err => rfl
      | ok r => exact (map_kind_bind (f := id)).trans (by rw [map_compare]; rfl)
  | condition op left right ihl ihr =>
    rw [eval, kindFrom, ← ihl, ← ihr]
    cases left.eval b with
    | error err => rfl
    | ok l =>
      cases l with
      | text _ | array _ | brokenText _ | brokenArray _ => rfl
      | truth lt =>
        cases right.eval b with
        | error err => rfl
        | ok r => exact (map_kind_bind (f := op.apply lt)).trans (by rw [map_demandTruth]; rfl)

theorem eval_eq_error_iff_kindFrom {err : EvalError} :
    e.eval b = .error err ↔ e.kindFrom b.kindOf = .error err := by
  rw [← map_kind_eval, map_eq_error]

theorem exists_eval_iff_kindFrom {k : Value.Kind} :
    (∃ v, e.eval b = .ok v ∧ v.kind = k) ↔ e.kindFrom b.kindOf = .ok k := by
  rw [← map_kind_eval, map_eq_ok]

end Expr

/-! ### Every variable counts -/

section References

variable {kinds kinds' : String → Except EvalError Value.Kind} {e : Expr}

/-- No operand is skipped, so each variable has to resolve. -/
theorem Expr.exists_kind_of_kindFrom {k : Value.Kind} (h : e.kindFrom kinds = .ok k) :
    ∀ name ∈ e.references, ∃ k', kinds name = .ok k' := by
  induction e generalizing k with
  | leaf l =>
    cases l with
    | reference name => exact List.forall_mem_singleton.2 ⟨k, h⟩
    | literal _ | truth _ | array _ => exact List.forall_mem_nil _
  | foreign kind => cases h
  | not operand ih =>
    simp only [kindFrom, bind_eq_ok] at h
    obtain ⟨k', hk', -⟩ := h
    exact ih hk'
  | comparison op left right ihl ihr =>
    simp only [kindFrom, bind_eq_ok] at h
    obtain ⟨l, hl, r, hr, -⟩ := h
    exact List.forall_mem_append.2 ⟨ihl hl, ihr hr⟩
  | condition op left right ihl ihr =>
    simp only [kindFrom, bind_eq_ok] at h
    obtain ⟨l, hl, -, -, r, hr, -⟩ := h
    exact List.forall_mem_append.2 ⟨ihl hl, ihr hr⟩

/-- Errors with the same message and attributes. The datum that a variable has no use for is seen in
the message only. -/
inductive EvalError.SameReport : EvalError → EvalError → Prop
  | refl (err : EvalError) : SameReport err err
  | unsupportedValue {name other : String} {d d' : Datum}
      (h : (unsupportedValue name d).message = (unsupportedValue other d').message) :
      SameReport (.unsupportedValue name d) (.unsupportedValue other d')

/-- The same result, or errors with the same report. -/
inductive SameOutcome {α : Type} : Except EvalError α → Except EvalError α → Prop
  | ok (a : α) : SameOutcome (.ok a) (.ok a)
  | error {err err' : EvalError} (h : err.SameReport err') : SameOutcome (.error err) (.error err')

namespace SameOutcome

variable {α β : Type} {x y : Except EvalError α} {f g : α → Except EvalError β}

theorem refl (x : Except EvalError α) : SameOutcome x x := by
  cases x with
  | ok a => exact .ok a
  | error err => exact .error (.refl err)

theorem bind (h : SameOutcome x y) (hfg : ∀ a, SameOutcome (f a) (g a)) :
    SameOutcome (x >>= f) (y >>= g) := by
  cases h with
  | ok a => exact hfg a
  | error h => exact .error h

theorem cases_of_map_kind {x y : Except EvalError Value}
    (h : SameOutcome (x.map Value.kind) (y.map Value.kind)) :
    (∃ v w, x = .ok v ∧ y = .ok w ∧ v.kind = w.kind) ∨
      ∃ err err', x = .error err ∧ y = .error err' ∧ err.SameReport err' := by
  generalize hx : x.map Value.kind = kx at h
  generalize hy : y.map Value.kind = ky at h
  cases h with
  | ok k =>
    obtain ⟨v, hv, hvk⟩ := map_eq_ok.1 hx
    obtain ⟨w, hw, hwk⟩ := map_eq_ok.1 hy
    exact .inl ⟨v, w, hv, hw, hvk.trans hwk.symm⟩
  | error h => exact .inr ⟨_, _, map_eq_error.1 hx, map_eq_error.1 hy, h⟩

end SameOutcome

theorem Expr.sameOutcome_kindFrom
    (h : ∀ name ∈ e.references, SameOutcome (kinds name) (kinds' name)) :
    SameOutcome (e.kindFrom kinds) (e.kindFrom kinds') := by
  induction e with
  | leaf l =>
    cases l with
    | reference name => exact h name (List.mem_singleton_self name)
    | literal _ | truth _ | array _ => exact .refl _
  | foreign kind => exact .refl _
  | not operand ih => exact (ih h).bind fun k => .refl _
  | comparison op left right ihl ihr =>
    obtain ⟨hl, hr⟩ := List.forall_mem_append.1 h
    exact (ihl hl).bind fun l => (ihr hr).bind fun r => .refl _
  | condition op left right ihl ihr =>
    obtain ⟨hl, hr⟩ := List.forall_mem_append.1 h
    exact (ihl hl).bind fun l => (SameOutcome.refl _).bind fun _ => (ihr hr).bind fun r => .refl _

end References

/-- **Failures depend on kinds.** The checker, which sees the kind of each variable or the error of
its resolution and no value, yields an error exactly when the evaluation does, and the same one; else
it yields the kind of the value. So an evaluation succeeds only if every variable resolves, and
bindings that give each variable the same kind, or errors with the same report, have values of one
kind or errors with the same report. -/
theorem failures_depend_on_kinds (t : Expr) :
    (∀ (b : Bindings) (err : EvalError),
      t.eval b = .error err ↔ t.kindFrom b.kindOf = .error err) ∧
    (∀ (b : Bindings) (k : Value.Kind),
      (∃ v, t.eval b = .ok v ∧ v.kind = k) ↔ t.kindFrom b.kindOf = .ok k) ∧
    (∀ (b : Bindings) (v : Value), t.eval b = .ok v →
      ∀ name ∈ t.references, ∃ w, b.resolve name = .ok w) ∧
    ∀ b c : Bindings, (∀ name ∈ t.references, SameOutcome (b.kindOf name) (c.kindOf name)) →
      (∃ v w, t.eval b = .ok v ∧ t.eval c = .ok w ∧ v.kind = w.kind) ∨
      ∃ err err', t.eval b = .error err ∧ t.eval c = .error err' ∧ err.SameReport err' := by
  refine ⟨fun b err => t.eval_eq_error_iff_kindFrom b, fun b k => t.exists_eval_iff_kindFrom b,
    fun b v hv name hname => ?_, fun b c h => ?_⟩
  · have hkind : t.kindFrom b.kindOf = .ok v.kind := (t.exists_eval_iff_kindFrom b).1 ⟨v, hv, rfl⟩
    obtain ⟨k, hk⟩ := Expr.exists_kind_of_kindFrom hkind name hname
    obtain ⟨w, hw, -⟩ := map_eq_ok.1 hk
    exact ⟨w, hw⟩
  · have hsame := Expr.sameOutcome_kindFrom h
    rw [← Expr.map_kind_eval, ← Expr.map_kind_eval] at hsame
    exact hsame.cases_of_map_kind

/-- An array that lacks the text does not keep the negation beside it from being evaluated: with other
arrays for the same two variables it fails alike. -/
theorem same_failure_of_negated_arrays :
    let t : Expr := .condition .and
      (.comparison .contains (.leaf (.reference "f")) (.leaf (.literal "x")))
      (.not (.leaf (.reference "g")))
    let b : Bindings := [("f", .tuple []), ("g", .sameAs "f")]
    let c : Bindings := [("g", .value (.array ["y"])), ("f", .plain (.list [.text "x"]))]
    let flag : Bindings := [("f", .tuple []), ("g", .plain (.bool false))]
    (∃ w, flag.resolve "g" = .ok w) ∧
      ∃ err err', t.eval b = .error err ∧ t.eval c = .error err' ∧ err.SameReport err' := by
  intro t b c flag
  obtain ⟨-, -, hresolves, hpair⟩ := failures_depend_on_kinds t
  refine ⟨hresolves flag (.truth false) (by cbv) "g" (by decide), ?_⟩
  have hb : b.kindOf "f" = .ok .array ∧ b.kindOf "g" = .ok .array := ⟨by cbv, by cbv⟩
  have hc : c.kindOf "f" = .ok .array ∧ c.kindOf "g" = .ok .array := ⟨by cbv, by cbv⟩
  have hsame : ∀ name ∈ ["f", "g"], SameOutcome (b.kindOf name) (c.kindOf name) := by
    simp only [List.forall_mem_cons, hb, hc]
    exact ⟨.ok _, .ok _, List.forall_mem_nil _⟩
  have herr : t.eval b = .error (.operandKind "!" .array .truth) := by cbv
  rcases hpair b c hsame with ⟨v, -, hv, -⟩ | h
  · cases herr.symm.trans hv
  · exact h

end Scaffold
