import Scaffold.Descriptor.Validation
import Scaffold.Proofs.Descriptor.Walk
import Scaffold.Proofs.Eval.Footprint

/-!
# Conditions that are no expressions

The validation of a tree reads every condition text; the decision about a node reads its `if` text
and, unless that keeps the node out, its `unless` text. `validation_predicts_rejections`: a tree
without reports never runs into a text that is no expression, and every report is what the decision
about its node runs into. Evaluations fail as they do elsewhere, or break off.
-/

namespace Scaffold

open Descriptor

variable {b : Bindings} {n : Node} {e : SyntaxError} {err : ConditionError}

theorem satisfy_eq_rejected_iff {text : String} :
    b.satisfy text = .error (.rejected e) ↔ Stack.parse text = .error e := by
  rw [Bindings.satisfy, bind_eq_error, mapError_eq_error]
  constructor
  · rintro (⟨e', he, hr⟩ | ⟨t, -, ht⟩)
    · cases hr
      exact he
    · obtain ⟨e', -, he⟩ := mapError_eq_error.1 ht
      cases he
  · intro he
    exact .inl ⟨e, he, rfl⟩

namespace Descriptor

namespace Node

/-- The `if` condition of the node does not hinder: it is absent or holds. -/
def Admitted (b : Bindings) (n : Node) : Prop :=
  ∀ text, n.onlyIf = some text → b.satisfy text = .ok true

theorem admitted_iff :
    n.Admitted b ↔ n.onlyIf = none ∨ ∃ text, n.onlyIf = some text ∧ b.satisfy text = .ok true := by
  unfold Admitted
  cases n.onlyIf <;> simp

/-- What the `unless` condition alone says about a node. -/
def spared (b : Bindings) (n : Node) : Except ConditionError Bool :=
  match n.exceptIf with
  | none => return true
  | some text => return !(← b.satisfy text)

theorem isActive_of_admitted (h : n.Admitted b) : n.isActive b = n.spared b := by
  unfold isActive
  cases hif : n.onlyIf with
  | none => rfl
  | some text => simp only [h text hif]; rfl

theorem isActive_of_satisfy_false {text : String} (hif : n.onlyIf = some text)
    (h : b.satisfy text = .ok false) : n.isActive b = .ok false := by
  simp only [isActive, hif, h]
  rfl

theorem isActive_of_satisfy_error {text : String} {err : ConditionError}
    (hif : n.onlyIf = some text) (h : b.satisfy text = .error err) :
    n.isActive b = .error err := by
  simp only [isActive, hif, h]
  rfl

theorem spared_eq_error_iff :
    n.spared b = .error err ↔ ∃ text, n.exceptIf = some text ∧ b.satisfy text = .error err := by
  unfold spared
  cases n.exceptIf with
  | none => simp [pure, Except.pure]
  | some text => simp [bind_eq_error, pure, Except.pure]

/-- A decision has an error from the `if` condition, or from the `unless` condition of a node that is
admitted. -/
theorem isActive_eq_error_iff :
    n.isActive b = .error err ↔
      (∃ text, n.onlyIf = some text ∧ b.satisfy text = .error err) ∨
        n.Admitted b ∧ ∃ text, n.exceptIf = some text ∧ b.satisfy text = .error err := by
  rw [← spared_eq_error_iff]
  constructor
  · intro h
    -- the `unless` condition is looked at only where the `if` condition admits the node
    by_cases hadm : n.Admitted b
    · rw [isActive_of_admitted hadm] at h
      exact .inr ⟨hadm, h⟩
    · obtain ⟨text, hif, hne⟩ : ∃ text, n.onlyIf = some text ∧ b.satisfy text ≠ .ok true := by
        simpa [Admitted] using hadm
      cases hs : b.satisfy text with
      | ok x =>
        cases x with
        | true => exact absurd hs hne
        | false =>
          rw [isActive_of_satisfy_false hif hs] at h
          cases h
      | error err =>
        rw [isActive_of_satisfy_error hif hs] at h
        cases h
        exact .inl ⟨text, hif, hs⟩
  · rintro (⟨text, hif, hs⟩ | ⟨hadm, h⟩)
    · exact isActive_of_satisfy_error hif hs
    · rw [isActive_of_admitted hadm]
      exact h

theorem isActive_eq_rejected_iff :
    n.isActive b = .error (.rejected e) ↔
      (∃ text, n.onlyIf = some text ∧ Stack.parse text = .error e) ∨
        n.Admitted b ∧ ∃ text, n.exceptIf = some text ∧ Stack.parse text = .error e := by
  simp only [isActive_eq_error_iff, satisfy_eq_rejected_iff]

/-- A decision breaks off only if it reads a datum that no message can show. -/
theorem exists_reads_of_tooManyDigits (h : n.isActive b = .error (.failed .tooManyDigits)) :
    ∃ name d, n.Reads b name ∧ b.lookup name = some d ∧ d.isShowable = false := by
  obtain ⟨text, htext, hs⟩ : ∃ text, (n.onlyIf = some text ∨ n.exceptIf = some text) ∧
      b.satisfy text = .error (.failed .tooManyDigits) := by
    rcases isActive_eq_error_iff.1 h with ⟨text, hif, hs⟩ | ⟨-, text, hunless, hs⟩
    · exact ⟨text, .inl hif, hs⟩
    · exact ⟨text, .inr hunless, hs⟩
  obtain ⟨e, name, d, hparse, hname, hd⟩ := Bindings.exists_reads_of_satisfy hs
  exact ⟨name, d, ⟨text, e, htext, hparse, hname⟩, hd⟩

end Node

theorem Guard.check_eq_some_iff {d : Dialect} {here : Address} {g : Guard} {bad : BadCondition} :
    g.check d here n = some bad ↔
      bad.address = here ∧ bad.guard = g ∧
        ∃ text, g.text? n = some text ∧ d.parse text = .error bad.cause := by
  obtain ⟨address, guard, cause⟩ := bad
  unfold Guard.check
  cases g.text? n with
  | none => simp
  | some text => cases hp : d.parse text <;> simp [hp, eq_comm]

theorem Node.mem_validate_iff {d : Dialect} {root : Node} {bad : BadCondition} :
    bad ∈ root.validate d ↔
      ∃ m text, (bad.address, m) ∈ root.nodes ∧ bad.guard.text? m = some text ∧
        d.parse text = .error bad.cause := by
  simp only [Node.validate, List.mem_flatMap, Prod.exists, List.mem_filterMap,
    Guard.check_eq_some_iff]
  constructor
  · rintro ⟨_, m, hm, _, -, rfl, rfl, text, htext, hp⟩
    exact ⟨m, text, hm, htext, hp⟩
  · rintro ⟨m, text, hm, htext, hp⟩
    exact ⟨_, m, hm, bad.guard, by cases bad.guard <;> simp, rfl, rfl, text, htext, hp⟩

/-- A tree without reports is decided, node by node, without a text that is no expression: with an
answer or an error of the evaluation, unless it reads a datum that no message can show and breaks off.
A report on an `if` condition is what every decision about the node comes to, and a report on an
`unless` condition is what those decisions come to that the `if` condition does not settle. -/
theorem validation_predicts_rejections (root : Node) :
    (root.validate .stack = [] → ∀ p n, root.at? p = some n → ∀ b : Bindings,
      (∀ e, n.isActive b ≠ .error (.rejected e)) ∧
      ((∃ x, n.isActive b = .ok x) ∨
        (∃ e, n.isActive b = .error (.failed e) ∧ e ≠ .tooManyDigits) ∨
        n.isActive b = .error (.failed .tooManyDigits) ∧
          ∃ name d, n.Reads b name ∧ b.lookup name = some d ∧ d.isShowable = false)) ∧
    (root.Regular → ∀ bad ∈ root.validate .stack, ∃ n, root.at? bad.address = some n ∧
      (bad.guard = .onlyIf → ∀ b : Bindings, n.isActive b = .error (.rejected bad.cause)) ∧
      (bad.guard = .exceptIf → ∀ b : Bindings,
        (n.onlyIf = none ∨ ∃ text, n.onlyIf = some text ∧ b.satisfy text = .ok true) →
        n.isActive b = .error (.rejected bad.cause))) := by
  constructor
  · intro hempty p n hn b
    -- a rejected text would be reported under the address of its node
    have hno : ∀ (g : Guard) (text : String) (e : SyntaxError), g.text? n = some text →
        Stack.parse text ≠ .error e := fun g text e htext hp => by
      have hbad : (⟨p, g, e⟩ : BadCondition) ∈ root.validate .stack :=
        Node.mem_validate_iff.2 ⟨n, text, Node.mem_nodes_of_at? hn, htext, hp⟩
      rw [hempty] at hbad
      cases hbad
    have hnone : ∀ e, n.isActive b ≠ .error (.rejected e) := fun e he => by
      rcases Node.isActive_eq_rejected_iff.1 he with ⟨text, hif, hp⟩ | ⟨-, text, hunless, hp⟩
      · exact hno .onlyIf text e hif hp
      · exact hno .exceptIf text e hunless hp
    refine ⟨hnone, ?_⟩
    cases hr : n.isActive b with
    | ok x => exact .inl ⟨x, rfl⟩
    | error err =>
      cases err with
      | rejected e => exact absurd hr (hnone e)
      | failed e =>
        by_cases he : e = .tooManyDigits
        · subst he
          exact .inr (.inr ⟨rfl, Node.exists_reads_of_tooManyDigits hr⟩)
        · exact .inr (.inl ⟨e, rfl, he⟩)
  · intro hreg bad hbad
    obtain ⟨n, text, hn, htext, hp⟩ := Node.mem_validate_iff.1 hbad
    refine ⟨n, hreg.at?_of_mem_nodes hn, fun hg b => ?_, fun hg b hif => ?_⟩
    · rw [hg] at htext
      exact Node.isActive_eq_rejected_iff.2 (.inl ⟨text, htext, hp⟩)
    · rw [hg] at htext
      exact Node.isActive_eq_rejected_iff.2 (.inr ⟨Node.admitted_iff.2 hif, text, htext, hp⟩)

/-- A script with one context that has conditions. -/
def guardedScript (onlyIf exceptIf : String) : Node :=
  .mk .script [.scalar .attributes (.attributes []),
    .children .contexts [guardedBlock onlyIf exceptIf],
    .children .steps [], .children .inputs [], .children .sources [], .children .execs [],
    .scalar .help (.text none), .child .output none]

theorem regular_guardedScript (onlyIf exceptIf : String) :
    (guardedScript onlyIf exceptIf).Regular := by
  refine .mk (show (Kind.script.schema.map (·.field)).Nodup by decide) fun s m hm => ?_
  obtain ⟨-, rfl⟩ : s = ⟨.contexts, some 0⟩ ∧ m = guardedBlock onlyIf exceptIf := by
    simpa [guardedScript, Node.steps, Node.slots, Slot.steps] using hm
  exact .mk (show (Kind.contextBlock.schema.map (·.field)).Nodup by decide)
    fun s m hm => by cases hm

/-- A block whose `if` text breaks off and whose `unless` text leaves a group open. Both are reported,
and every decision about the block comes to the first. With both texts mended nothing is reported, and
no decision about the block runs into a text that is no expression. -/
theorem rejections_of_broken_block :
    ((guardedScript "$a ==" "($b").Regular ∧
      (guardedScript "$a ==" "($b").at? [⟨.contexts, some 0⟩] = some (guardedBlock "$a ==" "($b") ∧
      ((guardedScript "$a ==" "($b").validate .stack).map (·.guard) = [.onlyIf, .exceptIf] ∧
      ∀ b : Bindings, (guardedBlock "$a ==" "($b").isActive b =
        .error (.rejected ⟨"$a ==", 3, .noRightOperand (.comparison .equal)⟩)) ∧
    (guardedScript "$a == $c" "($b)").validate .stack = [] ∧
      ∀ (b : Bindings) (e : SyntaxError),
        (guardedBlock "$a == $c" "($b)").isActive b ≠ .error (.rejected e) := by
  have hreports : (guardedScript "$a ==" "($b").validate .stack =
      [⟨[⟨.contexts, some 0⟩], .onlyIf, ⟨"$a ==", 3, .noRightOperand (.comparison .equal)⟩⟩,
        ⟨[⟨.contexts, some 0⟩], .exceptIf, ⟨"($b", 0, .unmatched '('⟩⟩] := by decide +kernel
  have hmended : (guardedScript "$a == $c" "($b)").validate .stack = [] := by decide +kernel
  refine ⟨⟨regular_guardedScript _ _, rfl, by rw [hreports]; rfl, ?_⟩, hmended, fun b => ?_⟩
  · obtain ⟨n, hn, hif, -⟩ := (validation_predicts_rejections _).2 (regular_guardedScript _ _)
      ⟨[⟨.contexts, some 0⟩], .onlyIf, ⟨"$a ==", 3, .noRightOperand (.comparison .equal)⟩⟩
      (by rw [hreports]; exact List.mem_cons_self)
    cases hn
    exact hif rfl
  · exact ((validation_predicts_rejections _).1 hmended [⟨.contexts, some 0⟩] _ rfl b).1

theorem isActive_longInteger :
    (guardedBlock "$a == 'x'" "$b").isActive [("a", longInteger)] =
      .error (.failed .tooManyDigits) := by
  have hparse : Stack.parse "$a == 'x'" =
      .ok (.comparison .equal (.leaf (.reference "a")) (.leaf (.literal "x"))) := by decide +kernel
  have hsatisfy : Bindings.satisfy [("a", longInteger)] "$a == 'x'" =
      .error (.failed .tooManyDigits) := by
    rw [Bindings.satisfy, hparse]
    show (Expr.holds [("a", longInteger)] _).mapError ConditionError.failed = _
    rw [Expr.holds, Expr.eval, Expr.eval, Leaf.eval, resolve_longInteger]
    rfl
  exact Node.isActive_of_satisfy_error rfl hsatisfy

/-- Nothing is reported on the block, and yet a decision about it comes neither to an answer nor to an
error of the evaluation. -/
theorem sound_block_breaks_off :
    (guardedScript "$a == 'x'" "$b").validate .stack = [] ∧
      (∀ x, (guardedBlock "$a == 'x'" "$b").isActive [("a", longInteger)] ≠ .ok x) ∧
      ∀ e, (guardedBlock "$a == 'x'" "$b").isActive [("a", longInteger)] = .error (.failed e) →
        e = .tooManyDigits := by
  rw [isActive_longInteger]
  refine ⟨by decide +kernel, fun x hx => ?_, fun e he => ?_⟩
  · cases hx
  · cases he
    rfl

end Descriptor

end Scaffold
