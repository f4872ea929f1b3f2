import Scaffold.Proofs.Stack.Acceptance
import Scaffold.Proofs.Stack.Spelling

/-!
# The language of the stack syntax

`parse_recognizes_grammar`: reading a text gives the tree `e` exactly when the whole text derives
`e`, and fails exactly when it derives no tree. The scanner and the machine are each compared with
their half of the grammar elsewhere (`Scan.spelled`, `Spelled.scan`; `State.Reads`,
`Derives.accepted`); here the halves meet.
-/

namespace Scaffold.Stack

variable {text : String} {e : Expr}

theorem generates_of_parse (h : parse text = .ok e) : Generates text e := by
  obtain ⟨st, hrun, hfin⟩ := bind_eq_ok.1 (mapError_eq_ok.1 h)
  split at hfin
  · cases hfin
  · next hfault =>
    have hsp := Scan.spelled hfault
    have hr := State.Reads.start.run hsp.bang_chain hrun
    exact ⟨_, hsp, hr.finish hfin⟩

theorem parse_of_generates (h : Generates text e) : parse text = .ok e := by
  obtain ⟨ls, hsp, hd⟩ := h
  obtain ⟨hfault, hls⟩ := hsp.scan hd.framed.chain 0
  obtain ⟨st, hrun, hfin⟩ := hd.run hls
  refine mapError_eq_ok.2 (bind_eq_ok.2 ⟨st, hrun, ?_⟩)
  rw [hfault]
  exact hfin

theorem parse_eq_ok_iff : parse text = .ok e ↔ Generates text e :=
  ⟨generates_of_parse, parse_of_generates⟩

/-- A text derives at most one tree. -/
theorem Generates.unique {e' : Expr} (h : Generates text e) (h' : Generates text e') : e = e' := by
  have := (parse_of_generates h).symm.trans (parse_of_generates h')
  exact Except.ok.inj this

/-- Reading a text and deriving it from the grammar are the same, and every text that derives no
tree is refused with a syntax error. -/
theorem parse_recognizes_grammar (text : String) :
    (∀ e, parse text = .ok e ↔ Generates text e) ∧
      ((∃ err, parse text = .error err) ↔ ∀ e, ¬ Generates text e) := by
  refine ⟨fun e => parse_eq_ok_iff, fun ⟨err, h⟩ e he => ?_, fun h => ?_⟩
  · rw [parse_of_generates he] at h
    cases h
  · cases hp : parse text with
    | error err => exact ⟨err, rfl⟩
    | ok e => exact absurd (generates_of_parse hp) (h e)

end Scaffold.Stack
