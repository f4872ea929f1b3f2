import Scaffold.Proofs.Outcome
import Scaffold.Proofs.Stack.Scopes

/-!
# The machine accepts what the grammar derives

The lexemes of a value act on any state that waits for an operand as the arrival of the value does.
The lexemes of a condition leave its tree in the scope where they began, or in an implicit scope
above it that is complete and that every later move closes first: `State.Settles` is equality up to
such scopes. `Derives.accepted` says this for all categories at once, in any surrounding state, by
induction over the derivation.
-/

namespace Scaffold.Stack

/-- A bracket that waits for a condition becomes `t` when it takes `e`. -/
inductive Scope.Takes (e : Expr) : Scope → (t : Scope) → Prop
  | fresh {k : Kind} {i : Nat} (hk : k.IsBracket) : Takes e ⟨k, i, none, none⟩ ⟨k, i, some e, none⟩
  | joined {k : Kind} {i j : Nat} {op : Connective} {l : Expr} (hk : k.IsBracket) :
      Takes e ⟨k, i, some l, some ⟨.connective op, j⟩⟩ ⟨k, i, some (.condition op l e), none⟩

theorem Scope.Takes.absorb {s t : Scope} {e : Expr} (h : s.Takes e t) (he : e.isLeaf = false)
    (k : Kind) (i : Nat) : s.absorb ⟨k, i, some e, none⟩ = .ok t := by
  cases h with
  | fresh _ => rfl
  | joined _ => simp [Scope.absorb, Scope.resolve, he]

namespace State

/-- The innermost scope waits for an operand. -/
def Ready (st : State) : Prop := st.top.node = none ∨ st.top.pending ≠ none

/-- The innermost scope is a bracket that has read nothing. -/
def Fresh (st : State) : Prop :=
  st.top.kind.IsBracket ∧ st.top.node = none ∧ st.top.pending = none

/-- Closing the complete scopes of `st'` leads to what closing those of `st` leads to. -/
structure Settles (st' st : State) : Prop where
  groups : st'.groups = st.groups
  close : ∀ p, (∀ s, Scope.isComplete s = true → p s = true) → st'.closeWhile p = st.closeWhile p

variable {st st' st₁ : State} {ls : List Lexeme} {e l : Expr} {c : Char} {i : Nat}

theorem Settles.refl (st : State) : Settles st st := ⟨rfl, fun _ _ => rfl⟩

theorem Settles.push {s t : Scope} (hs : s.isComplete = true) (ha : st.top.absorb s = .ok t) :
    Settles (st.push s) { st with top := t } := by
  refine ⟨rfl, fun p hp => ?_⟩
  simp only [State.closeWhile, State.push, Scope.closeWhile, hp s hs, if_true, ha]
  rfl

theorem closeWhile_of_not {p : Scope → Bool} (h : p st.top = false) : st.closeWhile p = .ok st := by
  obtain ⟨top, below, groups⟩ := st
  cases below with
  | nil => rfl
  | cons outer below => simp only [State.closeWhile, Scope.closeWhile, h]; rfl

theorem Ready.expectOperand (h : st.Ready) (c : Char) (i : Nat) :
    st.expectOperand c i = .ok st := by
  have hc : st.top.isComplete = false := by
    rcases h with h | h <;> simp [Scope.isComplete, h]
  rw [State.expectOperand, closeWhile_of_not hc]
  rcases h with h | h <;> simp [h, bind, Except.bind, pure, Except.pure]

theorem Fresh.ready (h : st.Fresh) : st.Ready := .inl h.2.1

theorem Fresh.arrive (h : st.Fresh) (c : Char) (i : Nat) :
    st.arrive e c i = .ok { st with top := { st.top with node := some e } } := by
  simp [State.arrive, h.2.1, h.2.2]

theorem Fresh.takes (h : st.Fresh) : st.top.Takes e { st.top with node := some e } := by
  obtain ⟨⟨k, i, node, pending⟩, below, groups⟩ := st
  obtain ⟨hk, rfl, rfl⟩ := h
  exact .fresh hk

theorem ready_of_takes {t : Scope} (h : st.top.Takes e t) : st.Ready := by
  obtain ⟨top, below, groups⟩ := st
  cases h with
  | fresh _ => exact .inl rfl
  | joined _ => exact .inr (by simp)

theorem arrive_of_takes {t : Scope} (h : st.top.Takes e t) (he : e.isLeaf = false) (c : Char)
    (i : Nat) : st.arrive e c i = .ok { st with top := t } := by
  obtain ⟨top, below, groups⟩ := st
  cases h with
  | fresh _ => rfl
  | joined _ => simp [State.arrive, Scope.resolve, he, pure, Except.pure, bind, Except.bind]

theorem operate_value {sign : Sign} {op : Comparison} {k : Scope.Kind} {j : Nat}
    (ht : st.top = ⟨k, j, some l, none⟩) (hl : l.isLeaf = true) (hs : sign.comparison? = some op)
    (i : Nat) : st.operate sign i =
      .ok { st with top := ⟨k, j, some l, some ⟨.comparison op, i⟩⟩ } := by
  have hc : st.top.isComplete = false := by simp [ht, Scope.isComplete, hl]
  rw [State.operate, closeWhile_of_not hc]
  cases sign with
  | equal | notEqual =>
    cases hs
    simp [ht, operatorOf, hl, bind, Except.bind, pure, Except.pure]
  | and | or | xor => cases hs

theorem operate_condition {sign : Sign} {k : Scope.Kind} {j : Nat}
    (hset : st'.Settles st) (ht : st.top = ⟨k, j, some l, none⟩) (hk : k.IsBracket)
    (hl : l.isLeaf = false) (i : Nat) : st'.operate sign i =
      .ok { st with top := ⟨k, j, some l, some ⟨.connective sign.connective, i⟩⟩ } := by
  have hc : st.top.isComplete = false := by
    rcases hk with rfl | rfl <;> simp [ht, Scope.isComplete, Scope.isImplicit]
  rw [State.operate, hset.close _ fun _ h => h, closeWhile_of_not hc]
  simp [ht, Reads.operatorOf_of_not_isLeaf hl, hl, bind, Except.bind, pure, Except.pure]

end State

/-! ### Derivations -/

theorem exists_foldlM_eq_step {ts : List Token} {l : Lexeme} (h : ts.map (·.lexeme) = [l]) :
    ∃ i, ∀ st : State, ts.foldlM State.step st = st.step ⟨i, l⟩ := by
  obtain ⟨⟨i, _⟩, us, rfl, rfl, hus⟩ := List.map_eq_cons_iff.1 h
  obtain rfl := List.map_eq_nil_iff.1 hus
  exact ⟨i, fun st => by rw [List.foldlM_cons]; exact bind_pure _⟩

/-- How the machine takes lexemes of a category, in any state in which they may begin. -/
def Category.Accepts (c : Category) (ls : List Lexeme) (e : Expr) : Prop :=
  ∀ ts : List Token, ts.map (·.lexeme) = ls → ∀ st : State,
    match c with
    | .value => st.Ready → ∃ c i, ts.foldlM State.step st = st.arrive e c i
    | .unit => ∀ t, st.top.Takes e t →
        ∃ st', ts.foldlM State.step st = .ok st' ∧ st'.Settles { st with top := t }
    | .condition | .expression => st.Fresh →
        ∃ st', ts.foldlM State.step st = .ok st' ∧
          st'.Settles { st with top := { st.top with node := some e } }

namespace Category.Accepts

variable {ls rs : List Lexeme} {l r e : Expr}

theorem ofValue (h : Accepts .value ls e) : Accepts .expression ls e := by
  intro ts hts st hf
  obtain ⟨c, i, hrun⟩ := h ts hts st hf.ready
  exact ⟨_, hrun.trans (hf.arrive c i), .refl _⟩

theorem ofUnit (h : Accepts .unit ls e) : Accepts .condition ls e := fun ts hts st hf =>
  h ts hts st _ hf.takes

/-- An expression in parentheses arrives as one operand. -/
theorem paren (h : Accepts .expression ls e) (ts : List Token)
    (hts : ts.map (·.lexeme) = .opening :: (ls ++ [.closing])) (st : State) (hr : st.Ready) :
    ∃ i, ts.foldlM State.step st = st.arrive e '(' i := by
  obtain ⟨⟨i, _⟩, us, rfl, rfl, hus⟩ := List.map_eq_cons_iff.1 hts
  obtain ⟨vs, ws, rfl, hvs, hws⟩ := List.map_eq_append_iff.1 hus
  obtain ⟨⟨j, _⟩, xs, rfl, rfl, hxs⟩ := List.map_eq_cons_iff.1 hws
  obtain rfl := List.map_eq_nil_iff.1 hxs
  have hopen : st.step ⟨i, .opening⟩ =
      .ok { st.push ⟨.group, i, none, none⟩ with groups := st.groups + 1 } := by
    show st.openGroup i = _
    rw [State.openGroup, hr.expectOperand]
    rfl
  obtain ⟨st', hrun, hset⟩ := h vs hvs
    { st.push ⟨.group, i, none, none⟩ with groups := st.groups + 1 } ⟨.inr rfl, rfl, rfl⟩
  have hclose : st'.step ⟨j, .closing⟩ = st.arrive e '(' i := by
    show st'.closeGroup j = _
    rw [State.closeGroup, hset.close _ fun s hs => ?_, State.closeWhile_of_not rfl]
    · rfl
    · simp_all [Scope.isComplete]
  refine ⟨i, ?_⟩
  simp only [List.foldlM_cons, List.foldlM_append, List.foldlM_nil, hopen, bind, Except.bind, hrun,
    hclose]
  cases st.arrive e '(' i <;> rfl

/-- Two values around a sign of comparison. -/
theorem comparison {s : Sign} {op : Comparison} (hs : s.comparison? = some op)
    (hl : Accepts .value ls l) (hr : Accepts .value rs r) (hleaf : l.isLeaf = true)
    (hleaf' : r.isLeaf = true) :
    Accepts .unit (ls ++ .sign s :: rs) (.comparison op l r) := by
  intro ts hts st t htakes
  obtain ⟨us, vs, rfl, hus, hvs⟩ := List.map_eq_append_iff.1 hts
  obtain ⟨⟨j, _⟩, ws, rfl, rfl, hws⟩ := List.map_eq_cons_iff.1 hvs
  -- from the left value on, whichever scope it is in
  have hrest : ∀ (st₁ : State) (k : Scope.Kind) (i : Nat), st₁.top = ⟨k, i, some l, none⟩ →
      (⟨j, .sign s⟩ :: ws).foldlM State.step st₁ =
        .ok { st₁ with top := ⟨k, i, some (.comparison op l r), none⟩ } := fun st₁ k i ht => by
    obtain ⟨c, m, hrun⟩ := hr ws hws
      { st₁ with top := ⟨k, i, some l, some ⟨.comparison op, j⟩⟩ } (.inr (by simp))
    have hstep : st₁.step ⟨j, .sign s⟩ = _ := State.operate_value ht hleaf hs j
    rw [List.foldlM_cons, hstep]
    simp only [bind, Except.bind, hrun]
    simp [State.arrive, Scope.resolve, hleaf', bind, Except.bind, pure, Except.pure]
  obtain ⟨c, i, hrun⟩ := hl us hus st (State.ready_of_takes htakes)
  rw [List.foldlM_append, hrun]
  obtain ⟨top, below, groups⟩ := st
  cases htakes with
  | fresh hk => exact ⟨_, hrest _ _ _ rfl, .refl _⟩
  | @joined k m n op' l' hk =>
    refine ⟨_, ?_, State.Settles.push (s := ⟨.operand, i, some (.comparison op l r), none⟩) rfl rfl⟩
    simp only [State.arrive, hleaf]
    exact hrest _ _ _ rfl

theorem not (h : Accepts .expression ls e) :
    Accepts .unit (.bang :: .opening :: (ls ++ [.closing])) (.not e) := by
  intro ts hts st t htakes
  obtain ⟨⟨i, _⟩, us, rfl, rfl, hus⟩ := List.map_eq_cons_iff.1 hts
  have hopen : st.step ⟨i, .bang⟩ =
      .ok (st.push ⟨.negation, i, none, some ⟨.not, i⟩⟩) := by
    show st.openNegation i = _
    rw [State.openNegation, (State.ready_of_takes htakes).expectOperand]
    rfl
  obtain ⟨j, hrun⟩ := h.paren us hus (st.push ⟨.negation, i, none, some ⟨.not, i⟩⟩) (.inl rfl)
  refine ⟨_, ?_, State.Settles.push (s := ⟨.negation, i, some (.not e), none⟩) rfl
    (htakes.absorb rfl _ _)⟩
  rw [List.foldlM_cons, hopen]
  exact hrun

theorem join (s : Sign) (hl : Accepts .condition ls l) (hr : Accepts .unit rs r)
    (hleaf : l.isLeaf = false) :
    Accepts .condition (ls ++ .sign s :: rs) (.condition s.connective l r) := by
  intro ts hts st hf
  obtain ⟨us, vs, rfl, hus, hvs⟩ := List.map_eq_append_iff.1 hts
  obtain ⟨⟨j, _⟩, ws, rfl, rfl, hws⟩ := List.map_eq_cons_iff.1 hvs
  obtain ⟨st₁, hrun, hset⟩ := hl us hus st hf
  obtain ⟨⟨k, i, node, pending⟩, below, groups⟩ := st
  obtain ⟨hk, rfl, rfl⟩ := hf
  have hstep : st₁.step ⟨j, .sign s⟩ = _ := State.operate_condition hset rfl hk hleaf j
  rw [List.foldlM_append, hrun]
  simp only [bind, Except.bind, List.foldlM_cons, hstep]
  exact hr ws hws _ _ (.joined hk)

end Category.Accepts

/-- Lexemes that derive a tree are taken by the machine, wherever they may begin. -/
theorem Derives.accepted {c : Category} {ls : List Lexeme} {e : Expr} (h : Derives c ls e) :
    c.Accepts ls e := by
  induction h with
  | ofValue _ ih => exact ih.ofValue
  | ofCondition _ ih => exact ih
  | reference name =>
    intro ts hts st _
    obtain ⟨i, hrun⟩ := exists_foldlM_eq_step hts
    exact ⟨'$', i, hrun st⟩
  | literal q text =>
    intro ts hts st _
    obtain ⟨i, hrun⟩ := exists_foldlM_eq_step hts
    exact ⟨q, i, hrun st⟩
  | valueGroup _ ih =>
    intro ts hts st hr
    exact ⟨'(', ih.ofValue.paren ts hts st hr⟩
  | equal hl hr ihl ihr => exact .comparison rfl ihl ihr hl.isLeaf_of_value hr.isLeaf_of_value
  | notEqual hl hr ihl ihr => exact .comparison rfl ihl ihr hl.isLeaf_of_value hr.isLeaf_of_value
  | @conditionGroup ls e h ih =>
    intro ts hts st t htakes
    have ih' : Category.Accepts .expression ls e := ih
    obtain ⟨i, hrun⟩ := ih'.paren ts hts st (State.ready_of_takes htakes)
    exact ⟨_, hrun.trans (State.arrive_of_takes htakes h.not_isLeaf_of_condition '(' i), .refl _⟩
  | not _ ih => exact ih.not
  | ofUnit _ ih => exact ih.ofUnit
  | join s hl _ ihl ihr => exact ihl.join s ihr hl.not_isLeaf_of_condition

/-- A whole row that derives a tree leads from the start to that tree. -/
theorem Derives.run {ls : List Lexeme} {e : Expr} (h : Derives .expression ls e) {ts : List Token}
    (hts : ts.map (·.lexeme) = ls) :
    ∃ st, ts.foldlM State.step State.start = .ok st ∧ st.finish = .ok e := by
  obtain ⟨st, hrun, hset⟩ := h.accepted ts hts State.start ⟨.inl rfl, rfl, rfl⟩
  refine ⟨st, hrun, ?_⟩
  have hg : st.groups = 0 := hset.groups
  rw [State.finish, if_neg (by simp [hg]), hset.close _ (by simp)]
  rfl

end Scaffold.Stack
