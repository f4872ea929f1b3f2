import Scaffold.Expr.Dialect
import Scaffold.Proofs.Expr.Nodes

/-!
# From one syntax to the other

A tree that is read in one syntax can be written in the other exactly when it holds nothing that the
other syntax lacks (`Braced.Expresses`, `Stack.Expresses`), and the text then reads as the same tree
(`translation_preserves_tree`). A tree of one syntax that the other one expresses is a tree of the
other one, so the two round trips do the rest.
-/

namespace Scaffold

/-- The braced syntax has all that the tree is made of. -/
structure Braced.Expresses (t : Expr) : Prop where
  no_xor : ∀ l r, .condition .xor l r ∉ t.nodes
  no_bothQuotes : ∀ text, .leaf (.literal text) ∈ t.nodes →
    ¬ ('\'' ∈ text.toList ∧ '"' ∈ text.toList)

/-- The stack syntax has all that the tree is made of. -/
structure Stack.Expresses (t : Expr) : Prop where
  no_contains : ∀ l r, .comparison .contains l r ∉ t.nodes
  no_truth : ∀ value, .leaf (.truth value) ∉ t.nodes
  no_array : ∀ items, .leaf (.array items) ∉ t.nodes
  no_leafOperand : ∀ op l r, op = .and ∨ op = .or → .condition op l r ∈ t.nodes →
    l.isLeaf = false ∧ r.isLeaf = false
  no_trailingBackslash : ∀ text, .leaf (.literal text) ∈ t.nodes →
    text.toList.getLast? ≠ some '\\'

namespace Braced

variable {t u : Expr} {s text : String}

theorem Expresses.mono (h : Expresses t) (hu : u.nodes ⊆ t.nodes) : Expresses u where
  no_xor l r hn := h.no_xor l r (hu hn)
  no_bothQuotes text hn := h.no_bothQuotes text (hu hn)

theorem expresses_of_print (h : print t = .ok s) : Expresses t where
  no_xor l r hn := by
    obtain ⟨s, hs⟩ := handsDown.forall_nodes h _ hn
    cases hs
  no_bothQuotes text hn := by
    obtain ⟨s, hs⟩ := handsDown.forall_nodes h _ hn
    rintro ⟨hq, hd⟩
    have herr : printString text = .error (.bothQuotes text) := by simp [printString, hq, hd]
    have : printString text = .ok s := hs
    rw [herr] at this
    cases this

theorem wellFormed_of_parse (h : parse text = .ok t) : WellFormed t := by
  obtain ⟨tree, ⟨ts, hsp, hd⟩, ht⟩ := parse_eq_ok_iff.1 h
  exact hd.wellFormed hsp.wellFormed ht

theorem exists_print_parse (h : WellFormed t) : ∃ s, print t = .ok s ∧ parse s = .ok t := by
  obtain ⟨s, hprint, hw⟩ := exists_print h
  obtain ⟨ts, tree, hsp, hd, ht⟩ := hw.loosest 0
  exact ⟨s, hprint, parse_eq_ok_iff.2 ⟨tree, ⟨ts, hsp, hd⟩, ht⟩⟩

/-- A tree of the stack syntax that the braced syntax expresses. -/
theorem wellFormed_of_expresses (h : Stack.WellFormed t) (ht : Expresses t) : WellFormed t := by
  induction t with
  | foreign kind => exact h.elim
  | leaf l =>
    cases l with
    | truth _ => exact h.elim
    | array _ => exact h.elim
    | reference name => exact h
    | literal text =>
      have hq := ht.no_bothQuotes text (Expr.self_mem_nodes _)
      exact not_and_or.1 hq
  | not operand ih => exact ih h (ht.mono fun n hn => List.mem_cons_of_mem _ hn)
  | comparison op left right ihl ihr =>
    obtain ⟨-, hleaf, hl, hr⟩ := h
    exact ⟨hleaf, ihl hl (ht.mono fun n hn => by simp [Expr.nodes, hn]),
      ihr hr (ht.mono fun n hn => by simp [Expr.nodes, hn])⟩
  | condition op left right ihl ihr =>
    obtain ⟨hleaf, hl, hr⟩ := h
    refine ⟨?_, fun _ => hleaf, ihl hl (ht.mono fun n hn => by simp [Expr.nodes, hn]),
      ihr hr (ht.mono fun n hn => by simp [Expr.nodes, hn])⟩
    rintro rfl
    exact ht.no_xor left right (Expr.self_mem_nodes _)

end Braced

namespace Stack

variable {t u : Expr} {s text : String}

theorem Expresses.mono (h : Expresses t) (hu : u.nodes ⊆ t.nodes) : Expresses u where
  no_contains l r hn := h.no_contains l r (hu hn)
  no_truth value hn := h.no_truth value (hu hn)
  no_array items hn := h.no_array items (hu hn)
  no_leafOperand op l r hop hn := h.no_leafOperand op l r hop (hu hn)
  no_trailingBackslash text hn := h.no_trailingBackslash text (hu hn)

theorem expresses_of_print (h : print t = .ok s) : Expresses t where
  no_contains l r hn := by
    obtain ⟨s, hs⟩ := handsDown.forall_nodes h _ hn
    cases hs
  no_truth value hn := by
    obtain ⟨s, hs⟩ := handsDown.forall_nodes h _ hn
    cases hs
  no_array items hn := by
    obtain ⟨s, hs⟩ := handsDown.forall_nodes h _ hn
    cases hs
  no_leafOperand op l r _ hn := by
    obtain ⟨s, hs⟩ := handsDown.forall_nodes h _ hn
    rw [print] at hs
    split at hs
    · cases hs
    · next hleaf => simpa using hleaf
  no_trailingBackslash text hn hlast := by
    obtain ⟨s, hs⟩ := handsDown.forall_nodes h _ hn
    have : printLiteral text = .ok s := hs
    rw [printLiteral, if_pos hlast] at this
    cases this

theorem wellFormed_of_parse (h : parse text = .ok t) : WellFormed t :=
  (generates_of_parse h).wellFormed

theorem exists_print_parse (h : WellFormed t) : ∃ s, print t = .ok s ∧ parse s = .ok t := by
  obtain ⟨s, ls, hprint, hsp, hd⟩ := exists_print h
  exact ⟨s, hprint, parse_of_generates ⟨ls, hsp, hd⟩⟩

/-- A tree of the braced syntax that the stack syntax expresses. -/
theorem wellFormed_of_expresses (h : Braced.WellFormed t) (ht : Expresses t) : WellFormed t := by
  induction t with
  | foreign kind => exact h.elim
  | leaf l =>
    cases l with
    | truth value => exact absurd (Expr.self_mem_nodes _) (ht.no_truth value)
    | array items => exact absurd (Expr.self_mem_nodes _) (ht.no_array items)
    | reference name => exact h
    | literal text => exact ht.no_trailingBackslash text (Expr.self_mem_nodes _)
  | not operand ih => exact ih h (ht.mono fun n hn => List.mem_cons_of_mem _ hn)
  | comparison op left right ihl ihr =>
    obtain ⟨hleaf, hl, hr⟩ := h
    refine ⟨?_, hleaf, ihl hl (ht.mono fun n hn => by simp [Expr.nodes, hn]),
      ihr hr (ht.mono fun n hn => by simp [Expr.nodes, hn])⟩
    cases op with
    | equal => exact .inl rfl
    | notEqual => exact .inr rfl
    | contains => exact absurd (Expr.self_mem_nodes _) (ht.no_contains left right)
  | condition op left right ihl ihr =>
    obtain ⟨hxor, hshape, hl, hr⟩ := h
    refine ⟨?_, ihl hl (ht.mono fun n hn => by simp [Expr.nodes, hn]),
      ihr hr (ht.mono fun n hn => by simp [Expr.nodes, hn])⟩
    -- `and` and `or` may join leaves in the braced syntax, `is` and `isNot` may not
    cases op with
    | and => exact ht.no_leafOperand _ left right (.inl rfl) (Expr.self_mem_nodes _)
    | or => exact ht.no_leafOperand _ left right (.inr rfl) (Expr.self_mem_nodes _)
    | xor => exact absurd rfl hxor
    | is => exact hshape (.inl rfl)
    | isNot => exact hshape (.inr rfl)

end Stack

theorem translation_of_expresses {d : Dialect} {t : Expr} {P : Prop}
    (hprint : ∀ s, d.print t = .ok s → P)
    (hread : P → ∃ s, d.print t = .ok s ∧ d.parse s = .ok t) :
    ((∃ s, d.print t = .ok s) ↔ P) ∧ (∀ s, d.print t = .ok s → d.parse s = .ok t) ∧
      (¬ P → ∃ err : Unwritable, d.print t = .error err) := by
  refine ⟨⟨fun ⟨s, hs⟩ => hprint s hs, fun h => ?_⟩, fun s hs => ?_, fun h => ?_⟩
  · obtain ⟨s, hs, -⟩ := hread h
    exact ⟨s, hs⟩
  · obtain ⟨s', hs', hparse⟩ := hread (hprint s hs)
    rw [hs] at hs'
    cases hs'
    exact hparse
  · cases hs : d.print t with
    | ok s => exact absurd (hprint s hs) h
    | error err => exact ⟨err, rfl⟩

/-- A tree of one syntax has a text in the other exactly when the other syntax has all that the tree
is made of; that text reads as the same tree, and any other tree is refused. -/
theorem translation_preserves_tree :
    (∀ text t, Dialect.stack.parse text = .ok t →
      ((∃ s, Dialect.braced.print t = .ok s) ↔ Braced.Expresses t) ∧
      (∀ s, Dialect.braced.print t = .ok s → Dialect.braced.parse s = .ok t) ∧
      (¬ Braced.Expresses t → ∃ err : Unwritable, Dialect.braced.print t = .error err)) ∧
    (∀ text t, Dialect.braced.parse text = .ok t →
      ((∃ s, Dialect.stack.print t = .ok s) ↔ Stack.Expresses t) ∧
      (∀ s, Dialect.stack.print t = .ok s → Dialect.stack.parse s = .ok t) ∧
      (¬ Stack.Expresses t → ∃ err : Unwritable, Dialect.stack.print t = .error err)) := by
  constructor
  · intro text t h
    have hwf := Stack.wellFormed_of_parse h
    exact translation_of_expresses (fun _ => Braced.expresses_of_print)
      fun ht => Braced.exists_print_parse (Braced.wellFormed_of_expresses hwf ht)
  · intro text t h
    have hwf := Braced.wellFormed_of_parse h
    exact translation_of_expresses (fun _ => Stack.expresses_of_print)
      fun ht => Stack.exists_print_parse (Stack.wellFormed_of_expresses hwf ht)

/-- A flat chain that the braced syntax has to bracket, a text whose precedence the stack syntax has to
bracket, and an operator that stays behind. -/
theorem translation_of_chain_and_precedence :
    (∃ t s, Dialect.stack.parse "$a == \"it's\" || !($b) && $c != 'x'" = .ok t ∧
      Dialect.braced.print t = .ok s ∧ Dialect.braced.parse s = .ok t) ∧
    (∃ t s, Dialect.braced.parse "!$\x7ba\x7d || $\x7bb\x7d == 'say \"x\"' && !$\x7bc\x7d" = .ok t ∧
      Dialect.stack.print t = .ok s ∧ Dialect.stack.parse s = .ok t) ∧
    ∃ t err, Dialect.stack.parse "!($a) ^ !($b)" = .ok t ∧ Dialect.braced.print t = .error err := by
  refine ⟨?_, ?_, ?_⟩
  · have ht : Dialect.stack.parse "$a == \"it's\" || !($b) && $c != 'x'" =
        .ok (.condition .and
          (.condition .or (.comparison .equal (.leaf (.reference "a")) (.leaf (.literal "it's")))
            (.not (.leaf (.reference "b"))))
          (.comparison .notEqual (.leaf (.reference "c")) (.leaf (.literal "x")))) := by decide +kernel
    obtain ⟨-, hparse, -⟩ := translation_preserves_tree.1 _ _ ht
    exact ⟨_, _, ht, rfl, hparse _ rfl⟩
  · have ht : Dialect.braced.parse "!$\x7ba\x7d || $\x7bb\x7d == 'say \"x\"' && !$\x7bc\x7d" =
        .ok (.condition .or (.not (.leaf (.reference "a")))
          (.condition .and
            (.comparison .equal (.leaf (.reference "b")) (.leaf (.literal "say \"x\"")))
            (.not (.leaf (.reference "c"))))) := by decide +kernel
    obtain ⟨-, hparse, -⟩ := translation_preserves_tree.2 _ _ ht
    exact ⟨_, _, ht, rfl, hparse _ rfl⟩
  · have ht : Dialect.stack.parse "!($a) ^ !($b)" =
        .ok (.condition .xor (.not (.leaf (.reference "a"))) (.not (.leaf (.reference "b")))) := by decide +kernel
    obtain ⟨-, -, hrefuse⟩ := translation_preserves_tree.1 _ _ ht
    obtain ⟨err, herr⟩ := hrefuse fun h => h.no_xor _ _ (Expr.self_mem_nodes _)
    exact ⟨_, err, ht, herr⟩

end Scaffold
