import Scaffold.Eval.Basic
import Scaffold.Proofs.Outcome

/-!
# Bindings as what they are looked up for

Nothing about bindings matters to an evaluation but the datum of each variable: bindings that agree
on every lookup give an expression the same value, and changes are said by the lookups they leave.
-/

namespace Scaffold

namespace Bindings

variable {b c : Bindings} {name other k : String} {d : Datum}

theorem lookup_without :
    (b.without name).lookup other = if other = name then none else b.lookup other := by
  induction b with
  | nil => simp [without]
  | cons e b ih =>
    obtain ⟨k, d⟩ := e
    rw [without] at ih ⊢
    by_cases hk : k = name
    · subst hk
      rw [List.filter_cons_of_neg (by simp), ih, lookup_cons_eq]
      split <;> rfl
    · rw [List.filter_cons_of_pos (by simpa using hk), lookup_cons_eq, lookup_cons_eq, ih]
      by_cases ho : other = k
      · subst ho
        rw [if_pos rfl, if_neg hk, if_pos rfl]
      · rw [if_neg ho, if_neg ho]

theorem isSome_lookup : (b.lookup name).isSome = b.any (·.1 == name) := by
  induction b with
  | nil => rfl
  | cons e b ih =>
    obtain ⟨k, d⟩ := e
    rw [lookup_cons_eq, List.any_cons, ← ih]
    by_cases h : name = k
    · subst h
      simp
    · rw [if_neg h, beq_false_of_ne (Ne.symm h), Bool.false_or]

theorem lookup_replaced :
    (b.map fun e => if e.1 == name then (name, d) else e).lookup other =
      if other = name then (b.lookup name).map fun _ => d else b.lookup other := by
  induction b with
  | nil => simp
  | cons e b ih =>
    obtain ⟨k, d'⟩ := e
    rw [List.map_cons]
    by_cases hk : k = name
    · subst hk
      rw [if_pos (beq_self_eq_true _), lookup_cons_eq, lookup_cons_eq, lookup_cons_eq, ih,
        if_pos rfl]
      split <;> rfl
    · rw [if_neg (by simpa using hk), lookup_cons_eq, lookup_cons_eq, lookup_cons_eq, ih,
        if_neg (Ne.symm hk)]
      by_cases ho : other = k
      · subst ho
        rw [if_pos rfl, if_neg hk, if_pos rfl]
      · rw [if_neg ho, if_neg ho]

theorem lookup_set :
    (b.set name d).lookup other = if other = name then some d else b.lookup other := by
  unfold set
  split
  · next h =>
    rw [lookup_replaced]
    obtain ⟨d', hd'⟩ := Option.isSome_iff_exists.1 (isSome_lookup.trans h)
    rw [hd', Option.map_some]
  · next h =>
    have hnone : b.lookup name = none := by
      rw [← Option.not_isSome_iff_eq_none, isSome_lookup]
      exact h
    rw [List.lookup_append, lookup_cons_eq]
    split
    · next ho => rw [ho, hnone, Option.none_or]
    · rw [List.lookup_nil, Option.or_none]

/-- Both give every variable the same datum. -/
def Agrees (b c : Bindings) : Prop := ∀ name, b.lookup name = c.lookup name

theorem Agrees.without (h : b.Agrees c) (name : String) :
    (b.without name).Agrees (c.without name) := by
  intro other
  rw [lookup_without, lookup_without, h other]

theorem resolve_eq (b : Bindings) (name : String) :
    b.resolve name = match b.lookup name with
      | none => .error (.unresolved name)
      | some d =>
        match d.read with
        | .error _ => .error (.ofUnsupported name d)
        | .ok .missing => .error (.unresolved name)
        | .ok (.value v) => .ok v
        | .ok (.sameAs other) => (b.without name).resolve other := by
  rw [resolve]
  cases h : b.lookup name <;> rfl

-- An alias is followed in the bindings of the other variables, which agree again.
theorem Agrees.resolve (h : b.Agrees c) (name : String) : b.resolve name = c.resolve name := by
  induction b, name using Bindings.resolve.induct generalizing c with
  | case5 b name d hd other hread ih =>
    rw [resolve_eq, resolve_eq, ← h name, hd]
    simp only [hread]
    exact ih (h.without name)
  | case1 b name hnone => rw [resolve_eq, resolve_eq, ← h name, hnone]
  | case2 b name d hd u hread | case3 b name d hd hread | case4 b name d hd v hread =>
    rw [resolve_eq, resolve_eq, ← h name, hd]
    simp only [hread]

end Bindings

variable {b c : Bindings}

theorem Leaf.eval_congr (h : b.Agrees c) (l : Leaf) : l.eval b = l.eval c := by
  cases l with
  | reference name => exact h.resolve name
  | literal text | truth value | array items => rfl

theorem Expr.eval_congr (h : b.Agrees c) (e : Expr) : e.eval b = e.eval c := by
  induction e with
  | leaf l => exact l.eval_congr h
  | not operand ih => rw [eval, eval, ih]
  | comparison op left right ihl ihr => rw [eval, eval, ihl, ihr]
  | condition op left right ihl ihr => rw [eval, eval, ihl, ihr]
  | foreign kind => rfl

theorem Expr.holds_congr (h : b.Agrees c) (e : Expr) : e.holds b = e.holds c := by
  rw [holds, holds, e.eval_congr h]

end Scaffold
