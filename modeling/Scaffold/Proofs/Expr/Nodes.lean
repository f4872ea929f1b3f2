import Scaffold.Proofs.Braced.RoundTrip
import Scaffold.Proofs.Stack.RoundTrip

/-!
# The nodes of an expression

`Expr.nodes` lists a tree and all trees below it. A property that every tree hands down to its
operands holds of all nodes (`forall_mem_nodes`), and having a text in a syntax is such a property.
-/

namespace Scaffold

namespace Expr

/-- The nodes of a tree: the tree itself, then those of its operands. -/
def nodes : Expr → List Expr
  | leaf l => [leaf l]
  | not operand => not operand :: operand.nodes
  | condition op left right => condition op left right :: (left.nodes ++ right.nodes)
  | comparison op left right => comparison op left right :: (left.nodes ++ right.nodes)
  | foreign kind => [foreign kind]

theorem self_mem_nodes (e : Expr) : e ∈ e.nodes := by
  cases e <;> simp [nodes]

/-- What each tree hands down to its operands holds of all nodes. -/
theorem forall_mem_nodes {P : Expr → Prop} (hnot : ∀ e, P (not e) → P e)
    (hcond : ∀ op l r, P (condition op l r) → P l ∧ P r)
    (hcomp : ∀ op l r, P (comparison op l r) → P l ∧ P r) {e : Expr} (h : P e) :
    ∀ n ∈ e.nodes, P n := by
  induction e with
  | leaf l => simpa [nodes] using h
  | foreign kind => simpa [nodes] using h
  | not operand ih => exact List.forall_mem_cons.2 ⟨h, ih (hnot _ h)⟩
  | condition op left right ihl ihr =>
    obtain ⟨hl, hr⟩ := hcond op left right h
    exact List.forall_mem_cons.2 ⟨h, List.forall_mem_append.2 ⟨ihl hl, ihr hr⟩⟩
  | comparison op left right ihl ihr =>
    obtain ⟨hl, hr⟩ := hcomp op left right h
    exact List.forall_mem_cons.2 ⟨h, List.forall_mem_append.2 ⟨ihl hl, ihr hr⟩⟩

end Expr

theorem Stack.WellFormed.of_mem_nodes {e n : Expr} (h : WellFormed e) (hn : n ∈ e.nodes) :
    WellFormed n :=
  Expr.forall_mem_nodes (fun _ h => h) (fun _ _ _ h => h.2) (fun _ _ _ h => h.2.2) h n hn

/-! ### Printers -/

variable {pr : Expr → Except Unwritable String}

/-- A printer that writes a composite tree only if it writes the operands. -/
structure HandsDown (pr : Expr → Except Unwritable String) : Prop where
  not {e : Expr} {s : String} (h : pr (.not e) = .ok s) : ∃ t, pr e = .ok t
  condition {op : Connective} {l r : Expr} {s : String} (h : pr (.condition op l r) = .ok s) :
    (∃ t, pr l = .ok t) ∧ ∃ t, pr r = .ok t
  comparison {op : Comparison} {l r : Expr} {s : String} (h : pr (.comparison op l r) = .ok s) :
    (∃ t, pr l = .ok t) ∧ ∃ t, pr r = .ok t

/-- Such a printer writes a tree only if it writes each of its nodes. -/
theorem HandsDown.forall_nodes {e : Expr} {s : String} (hpr : HandsDown pr) (h : pr e = .ok s) :
    ∀ n ∈ e.nodes, ∃ s, pr n = .ok s :=
  Expr.forall_mem_nodes (fun _ ⟨_, he⟩ => hpr.not he) (fun _ _ _ ⟨_, he⟩ => hpr.condition he)
    (fun _ _ _ ⟨_, he⟩ => hpr.comparison he) ⟨s, h⟩

section Operands

variable {x y : Except Unwritable String} {f : String → String → String} {s : String}

theorem operands_of_bind
    (h : (do
      let l ← x
      let r ← y
      return f l r) = Except.ok s) :
    (∃ t, x = .ok t) ∧ ∃ t, y = .ok t := by
  simp only [bind_eq_ok] at h
  obtain ⟨t, ht, u, hu, -⟩ := h
  exact ⟨⟨t, ht⟩, ⟨u, hu⟩⟩

theorem operands_of_guard {c : Prop} [Decidable c] {u : Unwritable}
    (h : (do
      if c then throw u
      let l ← x
      let r ← y
      return f l r) = Except.ok s) :
    (∃ t, x = .ok t) ∧ ∃ t, y = .ok t := by
  -- a tree that is refused has no text at all
  by_cases hc : c
  · rw [if_pos hc] at h
    cases h
  · rw [if_neg hc] at h
    exact operands_of_bind h

end Operands

theorem Stack.handsDown : HandsDown print where
  not h := by
    rw [print, bind_eq_ok] at h
    obtain ⟨t, ht, -⟩ := h
    exact ⟨t, ht⟩
  condition h := by
    rw [print] at h
    exact operands_of_guard h
  comparison h := by
    rw [print] at h
    exact operands_of_guard h

theorem Braced.handsDown : HandsDown print where
  not h := by
    rw [print, bind_eq_ok] at h
    obtain ⟨t, ht, -⟩ := h
    exact ⟨t, ht⟩
  condition h := by
    rw [print] at h
    exact operands_of_guard h
  comparison h := by
    rw [print] at h
    exact operands_of_bind h

end Scaffold
