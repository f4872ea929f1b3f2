import Scaffold.Activity.Decision
import Scaffold.Proofs.Eval.Aliases
import Scaffold.Proofs.Eval.Operands

/-!
# What an evaluation reads

An expression reads its variables and every name that aliases lead to from them, in the bindings that
it is evaluated against (`Expr.Reads`). What other names are bound to makes no difference: bindings
that agree on what is read have the same chains of aliases with the same endings
(`Bindings.Ends.congr`), so every variable resolves to the same, be it a value or an error. The two
bindings play different parts: `Reads` follows the aliases of the first. An evaluation breaks off only
if it reads a datum that no message can show (`Expr.exists_reads_of_tooManyDigits`).
-/

namespace Scaffold

namespace Bindings

/-- Following aliases from `name`, one comes to `n`. -/
def Reaches (b : Bindings) (name n : String) : Prop := ∃ k, b.chain name k = some n

variable {b c : Bindings} {name other n : String} {e : Ending} {d : Datum}

/-! ### One name -/

theorem lookup_of_find (h : b.find name = d) (hd : d ≠ .plain .null) : b.lookup name = some d := by
  unfold find at h
  cases hl : b.lookup name with
  | none =>
    rw [hl] at h
    exact absurd h.symm hd
  | some d' =>
    rw [hl] at h
    exact congrArg some h

theorem find_of_lookup (h : b.lookup name = some d) : b.find name = d := by
  rw [find, h]
  rfl

theorem alias?_iff_find : b.alias? name = some other ↔ b.find name = .sameAs other := by
  rw [alias?_eq_some_iff]
  constructor
  · exact find_of_lookup
  · intro h
    exact lookup_of_find h (by simp)

theorem alias?_congr (h : b.find name = c.find name) : b.alias? name = c.alias? name := by
  refine Option.ext fun other => ?_
  rw [alias?_iff_find, alias?_iff_find, h]

theorem stopsAt_gap (h : b.find name = .plain .null) : b.StopsAt name (.gap name) := by
  cases hl : b.lookup name with
  | none => exact .absent hl
  | some d =>
    have hd : d = .plain .null := (find_of_lookup hl).symm.trans h
    exact .null (hd ▸ hl)

theorem StopsAt.congr_find (h : b.StopsAt name e) (hfind : b.find name = c.find name) :
    c.StopsAt name e := by
  cases h with
  | @value d v hd hv =>
    have hc : c.find name = d := hfind.symm.trans (find_of_lookup hd)
    have hne : d ≠ .plain .null := by
      rintro rfl
      cases hv
    exact .value (lookup_of_find hc hne) hv
  | absent h =>
    have hb : b.find name = .plain .null := by rw [find, h]; rfl
    exact stopsAt_gap (hfind.symm.trans hb)
  | null h => exact stopsAt_gap (hfind.symm.trans (find_of_lookup h))
  | @unsupported d u hd hu =>
    have hc : c.find name = d := hfind.symm.trans (find_of_lookup hd)
    have hne : d ≠ .plain .null := by
      rintro rfl
      cases hu
    exact .unsupported (lookup_of_find hc hne) hu

/-! ### A chain of aliases -/

theorem chain_congr (h : ∀ n, b.Reaches name n → b.find n = c.find n) (k : Nat) :
    c.chain name k = b.chain name k := by
  induction k with
  | zero => rfl
  | succ k ih =>
    rw [chain, chain, ih]
    cases hk : b.chain name k with
    | none => rfl
    | some n => exact (alias?_congr (h n ⟨k, hk⟩)).symm

theorem Ends.congr (h : b.Ends name e) (hfind : ∀ n, b.Reaches name n → b.find n = c.find n) :
    c.Ends name e := by
  have hchain := chain_congr hfind
  cases h with
  | @stop k n _ hn hstop =>
    exact .stop ((hchain k).trans hn) (hstop.congr_find (hfind n ⟨k, hn⟩))
  | @cycle i j n hij hi hj first =>
    refine .cycle hij ((hchain i).trans hi) ((hchain j).trans hj) fun i' j' hij' hj' heq => ?_
    rw [hchain, hchain] at heq
    exact first i' j' hij' hj' heq

theorem exists_ends (b : Bindings) (name : String) :
    ∃ e, b.Ends name e ∧ b.resolve name = e.outcome := by
  obtain ⟨e, he, -, hresolve⟩ := (Visits.initial b name).run (c := b) (by simp) (Nat.le_refl _)
  exact ⟨e, he, hresolve⟩

theorem resolve_congr (h : ∀ n, b.Reaches name n → b.find n = c.find n) :
    b.resolve name = c.resolve name := by
  obtain ⟨e, he, hb⟩ := b.exists_ends name
  obtain ⟨e', he', hc⟩ := c.exists_ends name
  have hsame : e' = e := he'.unique (he.congr h)
  rw [hb, hc, hsame]

theorem Reaches.mem {names : List String} (h : b.Reaches name n) (hname : name ∈ names)
    (hclosed : ∀ m ∈ names, ∀ o ∈ b.alias? m, o ∈ names) : n ∈ names := by
  obtain ⟨k, hk⟩ := h
  induction k generalizing n with
  | zero =>
    cases hk
    exact hname
  | succ k ih =>
    rw [chain, Option.bind_eq_some_iff] at hk
    obtain ⟨m, hm, halias⟩ := hk
    exact hclosed m (ih hm) n halias

/-! ### One change -/

theorem find_set_of_ne (h : n ≠ name) : (b.set name d).find n = b.find n := by
  rw [find, lookup_set, if_neg h, find]

theorem find_without_of_ne (h : n ≠ name) : (b.without name).find n = b.find n := by
  rw [find, lookup_without, if_neg h, find]

end Bindings

/-! ### Expressions -/

/-- The evaluation of `e` against `b` may look `n` up. -/
def Expr.Reads (b : Bindings) (e : Expr) (n : String) : Prop :=
  ∃ name, .leaf (.reference name) ∈ e.nodes ∧ b.Reaches name n

variable {b c : Bindings} {e : Expr} {text : String}

theorem Expr.eval_congr_of_resolve
    (h : ∀ name, .leaf (.reference name) ∈ e.nodes → b.resolve name = c.resolve name) :
    e.eval b = e.eval c := by
  induction e with
  | leaf l =>
    cases l with
    | reference name => exact h name (self_mem_nodes _)
    | literal text => rfl
    | truth value => rfl
    | array items => rfl
  | not operand ih => rw [eval, eval, ih fun name hn => h name (by simp [nodes, hn])]
  | comparison op left right ihl ihr | condition op left right ihl ihr =>
    have hl := ihl fun name hn => h name (by simp [nodes, hn])
    have hr := ihr fun name hn => h name (by simp [nodes, hn])
    rw [eval, eval, hl, hr]
  | foreign kind => rfl

theorem Expr.eval_congr_of_reads (h : ∀ n, e.Reads b n → b.find n = c.find n) :
    e.eval b = e.eval c := by
  refine eval_congr_of_resolve fun name hname => Bindings.resolve_congr fun n hn => ?_
  exact h n ⟨name, hname, hn⟩

theorem Expr.holds_congr_of_reads (h : ∀ n, e.Reads b n → b.find n = c.find n) :
    e.holds b = e.holds c := by
  rw [holds, holds, eval_congr_of_reads h]

/-! ### Evaluations that break off -/

theorem Bindings.exists_reaches_of_tooManyDigits {name : String}
    (h : b.resolve name = .error .tooManyDigits) :
    ∃ n d, b.Reaches name n ∧ b.lookup n = some d ∧ d.isShowable = false := by
  obtain ⟨ending, hends, hresolve⟩ := b.exists_ends name
  rw [hresolve] at h
  cases hends with
  | cycle hij hi hj first => cases h
  | @stop k n _ hn hstop =>
    cases hstop with
    | value hd hv => cases h
    | absent hd => cases h
    | null hd => cases h
    | @unsupported d u hd hu =>
      have hlong : d.isShowable = false :=
        EvalError.ofUnsupported_eq_tooManyDigits_iff.1 (Except.error.inj h)
      exact ⟨n, d, ⟨k, hn⟩, hd, hlong⟩

-- Every check of an operator has an error of its own, so that a variable is all that is left.
theorem Expr.exists_reference_of_tooManyDigits (h : e.eval b = .error .tooManyDigits) :
    ∃ name, .leaf (.reference name) ∈ e.nodes ∧ b.resolve name = .error .tooManyDigits := by
  obtain ⟨n, hn, hstops⟩ := exists_stops_of_eval h
  cases hstops with
  | resolution hresolve => exact ⟨_, hn, hresolve⟩
  | negation hv hd => cases (demandTruth_eq_error_iff.1 hd).2
  | comparison hv hw hc =>
    obtain ⟨_, _, he⟩ := exists_operandKind_of_compare hc
    cases he
  | connective hv hd => cases (demandTruth_eq_error_iff.1 hd).2

theorem Expr.exists_reads_of_tooManyDigits (h : e.eval b = .error .tooManyDigits) :
    ∃ n d, e.Reads b n ∧ b.lookup n = some d ∧ d.isShowable = false := by
  obtain ⟨name, hname, hresolve⟩ := exists_reference_of_tooManyDigits h
  obtain ⟨n, d, hn, hd⟩ := Bindings.exists_reaches_of_tooManyDigits hresolve
  exact ⟨n, d, ⟨name, hname, hn⟩, hd⟩

theorem Bindings.exists_reads_of_satisfy (h : b.satisfy text = .error (.failed .tooManyDigits)) :
    ∃ e n d, Stack.parse text = .ok e ∧ e.Reads b n ∧ b.lookup n = some d ∧
      d.isShowable = false := by
  simp only [satisfy, bind_eq_error, mapError_eq_error, mapError_eq_ok] at h
  rcases h with ⟨_, -, h⟩ | ⟨e, hparse, err, hholds, herr⟩
  · cases h
  · cases herr
    simp only [Expr.holds, bind_eq_error, demandTruth_eq_error_iff] at hholds
    rcases hholds with h | ⟨v, -, -, h⟩
    · obtain ⟨n, d, hn, hd⟩ := Expr.exists_reads_of_tooManyDigits h
      exact ⟨e, n, d, hparse, hn, hd⟩
    · cases h

/-! ### Decisions -/

-- A text that is no expression is rejected before anything is looked up.
theorem Bindings.satisfy_congr_of_reads
    (h : ∀ e n, Stack.parse text = .ok e → e.Reads b n → b.find n = c.find n) :
    b.satisfy text = c.satisfy text := by
  unfold Bindings.satisfy
  cases hparse : Stack.parse text with
  | error err => rfl
  | ok e =>
    have hholds : e.holds b = e.holds c := Expr.holds_congr_of_reads fun n => h e n hparse
    exact congrArg (Except.mapError ConditionError.failed) hholds

namespace Descriptor.Node

variable {node : Node}

/-- The decision about a node may look `n` up, for its `if` or for its `unless`. -/
def Reads (b : Bindings) (node : Node) (n : String) : Prop :=
  ∃ text e, (node.onlyIf = some text ∨ node.exceptIf = some text) ∧ Stack.parse text = .ok e ∧
    e.Reads b n

theorem isActive_congr_of_reads (h : ∀ n, node.Reads b n → b.find n = c.find n) :
    node.isActive b = node.isActive c := by
  have hif : ∀ text, node.onlyIf = some text → b.satisfy text = c.satisfy text := by
    intro text htext
    exact Bindings.satisfy_congr_of_reads fun e n hparse hn => h n ⟨text, e, .inl htext, hparse, hn⟩
  have hunless : ∀ text, node.exceptIf = some text → b.satisfy text = c.satisfy text := by
    intro text htext
    exact Bindings.satisfy_congr_of_reads fun e n hparse hn => h n ⟨text, e, .inr htext, hparse, hn⟩
  unfold isActive
  cases hi : node.onlyIf with
  | none =>
    cases hu : node.exceptIf with
    | none => rfl
    | some text => simp only [hunless text hu]
  | some text =>
    cases hu : node.exceptIf with
    | none => simp only [hif text hi]
    | some text' => simp only [hif text hi, hunless text' hu]

end Descriptor.Node

/-- A block of context values under two conditions. -/
def Descriptor.guardedBlock (onlyIf exceptIf : String) : Descriptor.Node :=
  .mk .contextBlock [.children .nodes [], .scalar .onlyIf (.text (some onlyIf)),
    .scalar .exceptIf (.text (some exceptIf))]

/-- **An evaluation reads only what it can reach.** Bindings that answer alike for every name that is
reached, along the aliases of the first, from the variables of an expression give it the same value or
the same error, and likewise for the conditions of a node. So a decision stays as it is when a name
that it does not reach is set or unset. -/
theorem outcome_depends_on_reached_names (b c : Bindings) :
    (∀ e : Expr, (∀ n, e.Reads b n → b.find n = c.find n) →
      e.eval b = e.eval c ∧ e.holds b = e.holds c) ∧
    (∀ node : Descriptor.Node, (∀ n, node.Reads b n → b.find n = c.find n) →
      node.isActive b = node.isActive c) ∧
    ∀ (node : Descriptor.Node) (name : String), ¬ node.Reads b name →
      (∀ d, node.isActive (b.set name d) = node.isActive b) ∧
        node.isActive (b.without name) = node.isActive b := by
  refine ⟨fun e h => ?_, fun node h => Descriptor.Node.isActive_congr_of_reads h, ?_⟩
  · exact ⟨Expr.eval_congr_of_reads h, Expr.holds_congr_of_reads h⟩
  · intro node name hname
    have hne : ∀ n, node.Reads b n → n ≠ name := by
      rintro n hn rfl
      exact hname hn
    refine ⟨fun d => ?_, ?_⟩
    · refine (Descriptor.Node.isActive_congr_of_reads fun n hn => ?_).symm
      exact (Bindings.find_set_of_ne (hne n hn)).symm
    · refine (Descriptor.Node.isActive_congr_of_reads fun n hn => ?_).symm
      exact (Bindings.find_without_of_ne (hne n hn)).symm

/-- Two aliases of each other, and a third variable that is bound and then unset. -/
theorem decision_on_cycle_ignores_other :
    let block := Descriptor.guardedBlock "$x == 'on'" "$y"
    let b : Bindings := [("x", .sameAs "y"), ("y", .sameAs "x"), ("z", .plain (.bool true))]
    ¬ block.Reads b "z" ∧ block.isActive (b.without "z") = block.isActive b := by
  intro block b
  have hclosed : ∀ m ∈ ["x", "y"], ∀ o ∈ b.alias? m, o ∈ ["x", "y"] := by decide
  have hif : Stack.parse "$x == 'on'" =
      .ok (.comparison .equal (.leaf (.reference "x")) (.leaf (.literal "on"))) := by decide +kernel
  have hunless : Stack.parse "$y" = .ok (.leaf (.reference "y")) := by decide +kernel
  have hnot : ¬ block.Reads b "z" := by
    rintro ⟨text, e, htext, he, name, hname, hreach⟩
    have hmem : name ∈ ["x", "y"] := by
      rcases htext with h | h
      · cases Option.some.inj h
        cases hif.symm.trans he
        have hx : name = "x" := by simpa [Expr.nodes] using hname
        simp [hx]
      · cases Option.some.inj h
        cases hunless.symm.trans he
        have hy : name = "y" := by simpa [Expr.nodes] using hname
        simp [hy]
    have hz := hreach.mem hmem hclosed
    revert hz
    decide
  exact ⟨hnot, ((outcome_depends_on_reached_names b b).2.2 block "z" hnot).2⟩

end Scaffold
