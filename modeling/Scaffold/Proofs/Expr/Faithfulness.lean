import Scaffold.Proofs.Expr.Translation

/-!
# Trees that are written as something else

A printer refuses most trees that its syntax cannot express, but three kinds of nodes go through
unchecked (`Dialect.Unguarded`): a name with a newline behind it, a comparison of conditions, and in
the braced syntax an `is` or `isNot` of values. `printed_reads_back_iff`: these are all. A text that
is written reads as its tree exactly when the tree has none of these nodes, and a tree without them
that no text stands for is refused.
-/

namespace Scaffold

theorem Braced.quotable_of_printString {text s : String} (h : printString text = .ok s) :
    Quotable text := by
  unfold printString at h
  split at h
  · next hq => exact .inl (by simpa using hq)
  · split at h
    · next hq => exact .inr (by simpa using hq)
    · cases h

namespace Dialect

variable {d : Dialect} {t n : Expr} {s : String}

/-- A node that a printer writes although no text of its syntax stands for it. -/
def Unguarded (d : Dialect) : Expr → Prop
  | .leaf (.reference name) => name.toList.getLast? = some '\n'
  | .comparison _ left right => left.isLeaf = false ∨ right.isLeaf = false
  | .condition op left right =>
    d = .braced ∧ (op = .is ∨ op = .isNot) ∧ (left.isLeaf = true ∨ right.isLeaf = true)
  | _ => False

instance Unguarded.decidable (d : Dialect) : DecidablePred d.Unguarded
  | .leaf (.reference name) => inferInstanceAs (Decidable (name.toList.getLast? = some '\n'))
  | .comparison _ left right =>
    inferInstanceAs (Decidable (left.isLeaf = false ∨ right.isLeaf = false))
  | .condition op left right =>
    inferInstanceAs (Decidable
      (d = .braced ∧ (op = .is ∨ op = .isNot) ∧ (left.isLeaf = true ∨ right.isLeaf = true)))
  | .leaf (.literal _) | .leaf (.truth _) | .leaf (.array _) | .not _ | .foreign _ =>
    inferInstanceAs (Decidable False)

/-- The trees of a syntax. -/
def WellFormed : Dialect → Expr → Prop
  | stack => Stack.WellFormed
  | braced => Braced.WellFormed

/-! ### Trees of a syntax -/

theorem WellFormed.forall_nodes (h : d.WellFormed t) : ∀ n ∈ t.nodes, d.WellFormed n := by
  refine Expr.forall_mem_nodes (fun e he => ?_) (fun op l r he => ?_) (fun op l r he => ?_) h
  · cases d <;> exact he
  · cases d with
    | stack => exact he.2
    | braced => exact he.2.2
  · cases d with
    | stack => exact he.2.2
    | braced => exact he.2

/-- No text stands for an unguarded node, so no tree of the syntax has one. -/
theorem WellFormed.not_unguarded (h : d.WellFormed n) : ¬ d.Unguarded n := by
  intro hn
  cases n with
  | leaf l =>
    cases l with
    | reference name =>
      have hname : Name.IsName name := by cases d <;> exact h
      exact absurd (hname.2 '\n' (List.mem_of_getLast? hn)) (by decide)
    | literal _ | truth _ | array _ => exact hn
  | comparison op left right =>
    have hleaf : left.isLeaf = true ∧ right.isLeaf = true := by
      cases d with
      | stack => exact h.2.1
      | braced => exact h.1
    simp [Unguarded, hleaf] at hn
  | condition op left right =>
    obtain ⟨rfl, hop, hleaf⟩ := hn
    have hshape := h.2.1 hop
    simp [hshape] at hleaf
  | not operand => exact hn
  | foreign kind => exact hn

theorem wellFormed_of_parse (h : d.parse s = .ok t) : d.WellFormed t := by
  cases d with
  | stack => exact Stack.wellFormed_of_parse h
  | braced => exact Braced.wellFormed_of_parse h

theorem exists_print_parse (h : d.WellFormed t) : ∃ s, d.print t = .ok s ∧ d.parse s = .ok t := by
  cases d with
  | stack => exact Stack.exists_print_parse h
  | braced => exact Braced.exists_print_parse h

/-! ### Trees that are written -/

/-- Each node has a text in the syntax, and none is unguarded. -/
def Passes (d : Dialect) (t : Expr) : Prop :=
  ∀ n ∈ t.nodes, (∃ s, d.print n = .ok s) ∧ ¬ d.Unguarded n

namespace Passes

theorem of_print (h : d.print t = .ok s) (hn : ∀ n ∈ t.nodes, ¬ d.Unguarded n) : d.Passes t := by
  intro n hmem
  refine ⟨?_, hn n hmem⟩
  cases d with
  | stack => exact Stack.handsDown.forall_nodes h n hmem
  | braced => exact Braced.handsDown.forall_nodes h n hmem

theorem self (h : d.Passes t) : (∃ s, d.print t = .ok s) ∧ ¬ d.Unguarded t :=
  h t (Expr.self_mem_nodes t)

theorem mono {u : Expr} (h : d.Passes t) (hu : u.nodes ⊆ t.nodes) : d.Passes u :=
  fun n hn => h n (hu hn)

theorem operand (h : d.Passes (.not t)) : d.Passes t :=
  h.mono fun _ hn => List.mem_cons_of_mem _ hn

variable {l r : Expr}

theorem operands {op : Connective} (h : d.Passes (.condition op l r)) : d.Passes l ∧ d.Passes r :=
  ⟨h.mono fun n hn => by simp [Expr.nodes, hn], h.mono fun n hn => by simp [Expr.nodes, hn]⟩

theorem compared {op : Comparison} (h : d.Passes (.comparison op l r)) :
    (l.isLeaf = true ∧ r.isLeaf = true) ∧ d.Passes l ∧ d.Passes r :=
  ⟨by simpa [Unguarded] using h.self.2, h.mono fun n hn => by simp [Expr.nodes, hn],
    h.mono fun n hn => by simp [Expr.nodes, hn]⟩

theorem isName {name : String} (h : d.Passes (.leaf (.reference name))) : Name.IsName name := by
  obtain ⟨⟨s, hs⟩, hn⟩ := h.self
  have hw : Name.isWritable name = true := by
    by_contra hw
    cases d with
    | stack =>
      have hs : Stack.printLeaf (.reference name) = .ok s := hs
      rw [Stack.printLeaf, if_neg hw] at hs
      cases hs
    | braced =>
      have hs : Braced.printLeaf (.reference name) = .ok s := hs
      rw [Braced.printLeaf, if_neg hw] at hs
      cases hs
  exact Name.isName_of_isWritable hw hn

theorem stack_wellFormed (h : stack.Passes t) : Stack.WellFormed t := by
  -- each node passes or fails by itself, and its own printing says why it fails
  induction t with
  | foreign kind =>
    obtain ⟨⟨s, hs⟩, -⟩ := h.self
    cases hs
  | leaf l =>
    obtain ⟨⟨s, hs⟩, -⟩ := h.self
    have hexp := Stack.expresses_of_print hs
    cases l with
    | truth value => exact hexp.no_truth value (Expr.self_mem_nodes _)
    | array items => exact hexp.no_array items (Expr.self_mem_nodes _)
    | literal text => exact hexp.no_trailingBackslash text (Expr.self_mem_nodes _)
    | reference name => exact h.isName
  | not operand ih => exact ih h.operand
  | comparison op left right ihl ihr =>
    obtain ⟨⟨s, hs⟩, -⟩ := h.self
    obtain ⟨hleaf, hl, hr⟩ := h.compared
    refine ⟨?_, hleaf, ihl hl, ihr hr⟩
    cases op with
    | equal => exact .inl rfl
    | notEqual => exact .inr rfl
    | contains => cases hs
  | condition op left right ihl ihr =>
    obtain ⟨⟨s, hs⟩, -⟩ := h.self
    obtain ⟨hl, hr⟩ := h.operands
    refine ⟨?_, ihl hl, ihr hr⟩
    have hs : Stack.print (.condition op left right) = .ok s := hs
    rw [Stack.print] at hs
    split at hs
    · cases hs
    · next hleaf => simpa using hleaf

theorem braced_wellFormed (h : braced.Passes t) : Braced.WellFormed t := by
  induction t with
  | foreign kind =>
    obtain ⟨⟨s, hs⟩, -⟩ := h.self
    cases hs
  | leaf l =>
    obtain ⟨⟨s, hs⟩, -⟩ := h.self
    have hs : Braced.printLeaf l = .ok s := hs
    cases l with
    | truth value => trivial
    | literal text => exact Braced.quotable_of_printString hs
    | reference name => exact h.isName
    | array items =>
      obtain ⟨texts, htexts, -⟩ := bind_eq_ok.1 hs
      intro text htext
      obtain ⟨s, hs⟩ := exists_forall₂_iff.1 ⟨texts, mapM_eq_ok_iff.1 htexts⟩ text htext
      exact Braced.quotable_of_printString hs
  | not operand ih => exact ih h.operand
  | comparison op left right ihl ihr =>
    obtain ⟨hleaf, hl, hr⟩ := h.compared
    exact ⟨hleaf, ihl hl, ihr hr⟩
  | condition op left right ihl ihr =>
    obtain ⟨⟨s, hs⟩, hn⟩ := h.self
    obtain ⟨hl, hr⟩ := h.operands
    refine ⟨?_, fun hop => ?_, ihl hl, ihr hr⟩
    · rintro rfl
      cases hs
    · -- the printer lets leaves through here, and only `Unguarded` excludes them
      simpa [Unguarded, hop] using hn

theorem wellFormed (h : d.Passes t) : d.WellFormed t := by
  cases d with
  | stack => exact h.stack_wellFormed
  | braced => exact h.braced_wellFormed

end Passes

end Dialect

/-- A text that is written reads as its tree exactly when no node of the tree is unguarded; without
such nodes, a tree that no text stands for is refused. -/
theorem printed_reads_back_iff (d : Dialect) (t : Expr) :
    (∀ s, d.print t = .ok s → (d.parse s = .ok t ↔ ∀ n ∈ t.nodes, ¬ d.Unguarded n)) ∧
      ((∀ n ∈ t.nodes, ¬ d.Unguarded n) → (∀ s, d.parse s ≠ .ok t) →
        ∃ err : Unwritable, d.print t = .error err) := by
  have hback : ∀ s, d.print t = .ok s → (∀ n ∈ t.nodes, ¬ d.Unguarded n) → d.parse s = .ok t := by
    intro s hs hn
    have hpass := Dialect.Passes.of_print hs hn
    obtain ⟨s', hs', hparse⟩ := Dialect.exists_print_parse hpass.wellFormed
    cases hs.symm.trans hs'
    exact hparse
  refine ⟨fun s hs => ⟨fun hparse n hmem => ?_, hback s hs⟩, fun hn hnone => ?_⟩
  · have hwf := Dialect.wellFormed_of_parse hparse
    exact (hwf.forall_nodes n hmem).not_unguarded
  · cases hs : d.print t with
    | ok s => exact absurd (hback s hs hn) (hnone s)
    | error err => exact ⟨err, rfl⟩

/-- A tree that comes back, and one that is refused. -/
theorem reads_back_of_guarded_tree :
    (∃ s t, t = Expr.condition .is (.not (.leaf (.reference "a")))
        (.comparison .equal (.leaf (.reference "b")) (.leaf (.literal "it's"))) ∧
      Dialect.braced.print t = .ok s ∧ Dialect.braced.parse s = .ok t) ∧
    ∃ err, Dialect.stack.print
      (.comparison .contains (.leaf (.reference "a")) (.leaf (.literal "x"))) = .error err := by
  constructor
  · obtain ⟨hback, -⟩ := printed_reads_back_iff .braced (.condition .is (.not (.leaf (.reference "a")))
      (.comparison .equal (.leaf (.reference "b")) (.leaf (.literal "it's"))))
    exact ⟨_, _, rfl, rfl, (hback _ rfl).2 (by decide)⟩
  · obtain ⟨-, hrefuse⟩ := printed_reads_back_iff .stack
      (.comparison .contains (.leaf (.reference "a")) (.leaf (.literal "x")))
    refine hrefuse (by decide) fun s hs => ?_
    obtain ⟨hop, -⟩ := Stack.wellFormed_of_parse hs
    exact absurd hop (by decide)

/-- One tree for each kind of unguarded node. All three are written, and the text of each reads as
another tree. -/
theorem printed_as_another_tree :
    (∃ s, Dialect.stack.print (.leaf (.reference "a\n")) = .ok s ∧
      Dialect.stack.parse s = .ok (.leaf (.reference "a"))) ∧
    (∃ s, Dialect.stack.print (.comparison .equal (.not (.leaf (.reference "a")))
        (.not (.leaf (.reference "b")))) = .ok s ∧
      Dialect.stack.parse s =
        .ok (.condition .is (.not (.leaf (.reference "a"))) (.not (.leaf (.reference "b"))))) ∧
    ∃ s, Dialect.braced.print (.condition .is (.leaf (.reference "a")) (.leaf (.reference "b"))) =
        .ok s ∧
      Dialect.braced.parse s =
        .ok (.comparison .equal (.leaf (.reference "a")) (.leaf (.reference "b"))) :=
  ⟨⟨_, rfl, by decide +kernel⟩, ⟨_, rfl, by decide +kernel⟩, ⟨_, rfl, by decide +kernel⟩⟩

end Scaffold
