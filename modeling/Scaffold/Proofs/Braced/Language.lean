import Scaffold.Proofs.Outcome
import Scaffold.Proofs.Braced.Acceptance
import Scaffold.Proofs.Braced.Shape

/-!
# The language of the braced syntax

`parse_decides_grammar`: a text has at most one grammar tree; if it has one whose operands all have
their shapes, the text reads as its expression; if some operand has not, the first such node in
post-order is reported; and if there is no tree, the text is refused for another reason. So a fault
of the grammar always comes before a fault of shape.
-/

namespace Scaffold.Braced

variable {text : String} {t t' : Tree} {e : Expr} {err : SyntaxError}

theorem parseTree_eq_ok_iff : parseTree text = .ok t ↔ Generates text t := by
  rw [parseTree, State.run_eq_ok_iff]
  constructor
  · rintro ⟨ts, st, hsp, hf, hfin⟩
    have hr := State.Reads.start.feed hf
    exact ⟨ts, hsp, hr.finish hfin⟩
  · rintro ⟨ts, hsp, hd⟩
    obtain ⟨st, hf, hfin⟩ := hd.feed
    exact ⟨ts, st, hsp, hf, hfin⟩

theorem Generates.unique (h : Generates text t) (h' : Generates text t') : t = t' := by
  have := (parseTree_eq_ok_iff.2 h).symm.trans (parseTree_eq_ok_iff.2 h')
  exact Except.ok.inj this

theorem parse_of_generates (h : Generates text t) :
    parse text = t.toExpr.mapError (·.within text) := by
  rw [parse, parseTree_eq_ok_iff.2 h]
  rfl

theorem parse_of_not_generates (h : ∀ t, ¬ Generates text t) :
    ∃ err, parse text = .error err ∧ ∀ op side, err.fault ≠ .invalidOperand op side := by
  cases hp : parseTree text with
  | ok t => exact absurd (parseTree_eq_ok_iff.1 hp) (h t)
  | error e =>
    refine ⟨e.within text, by rw [parse, hp]; rfl, fun op side => ?_⟩
    exact State.not_invalidOperand_of_run hp op side

theorem parse_eq_ok_iff : parse text = .ok e ↔ ∃ t, Generates text t ∧ t.toExpr = .ok e := by
  rw [parse, mapError_eq_ok]
  show parseTree text >>= Tree.toExpr = .ok e ↔ _
  rw [bind_eq_ok]
  simp only [parseTree_eq_ok_iff]

theorem exists_invalidOperand_of_toExpr {e : Fault.Located} (h : t.toExpr = .error e) :
    ∃ op side, e.fault = .invalidOperand op side := by
  rw [Tree.toExpr_eq_error_iff] at h
  obtain ⟨node, -, hn⟩ := List.exists_of_findSome?_eq_some h
  exact Tree.exists_invalidOperand_of_misfit? hn

theorem parse_eq_invalidOperand_iff {i : Nat} {op : Operator} {side : Side} :
    parse text = .error ⟨text, i, .invalidOperand op side⟩ ↔
      ∃ t, Generates text t ∧ t.toExpr = .error ⟨i, .invalidOperand op side⟩ := by
  constructor
  · intro h
    by_cases hg : ∃ t, Generates text t
    · obtain ⟨t, ht⟩ := hg
      refine ⟨t, ht, ?_⟩
      rw [parse_of_generates ht] at h
      cases he : t.toExpr with
      | ok e => rw [he] at h; cases h
      | error e =>
        obtain ⟨j, fault⟩ := e
        rw [he] at h
        cases h
        rfl
    · obtain ⟨err, herr, hne⟩ := parse_of_not_generates fun t ht => hg ⟨t, ht⟩
      rw [h] at herr
      cases herr
      exact absurd rfl (hne op side)
  · rintro ⟨t, ht, he⟩
    rw [parse_of_generates ht, he]
    rfl

/-- A text has at most one grammar tree. With one whose operands have their shapes it reads as the
tree's expression, with another one it is refused for the first node in post-order that is wrong,
and without one it is refused for another reason. -/
theorem parse_decides_grammar (text : String) :
    (∀ t t', Generates text t → Generates text t' → t = t') ∧
    (∀ e, parse text = .ok e ↔ ∃ t, Generates text t ∧ t.Shaped ∧ t.ast = e) ∧
    (∀ i op side, parse text = .error ⟨text, i, .invalidOperand op side⟩ ↔
      ∃ t, Generates text t ∧
        t.postorder.findSome? Tree.misfit? = some ⟨i, .invalidOperand op side⟩) ∧
    ((∃ err, parse text = .error err ∧ ∀ op side, err.fault ≠ .invalidOperand op side) ↔
      ∀ t, ¬ Generates text t) := by
  refine ⟨fun t t' => Generates.unique, fun e => ?_, fun i op side => ?_, ?_,
    parse_of_not_generates⟩
  · simp only [parse_eq_ok_iff, Tree.toExpr_eq_ok_iff]
  · simp only [parse_eq_invalidOperand_iff, Tree.toExpr_eq_error_iff]
  · rintro ⟨err, herr, hne⟩ t ht
    rw [parse_of_generates ht] at herr
    cases he : t.toExpr with
    | ok e => rw [he] at herr; cases herr
    | error e =>
      obtain ⟨op, side, hop⟩ := exists_invalidOperand_of_toExpr he
      rw [he] at herr
      cases herr
      exact hne op side hop

end Scaffold.Braced
