import Scaffold.Proofs.Outcome
import Scaffold.Proofs.Stack.Grammar

/-!
# The invariant of the open scopes

`State.Reads st ls`: the open scopes of `st`, read from the outermost one inwards, are the lexemes
`ls` that were consumed so far. Each scope contributes what it has read of its own (`Scope.Holds`):
nothing, a tree, a tree with an operator that waits, or a lone `!`. A scope below another one waits
for it (`Scope.Awaits`): that is why the lexemes of a scope and of those above it may be read as one
derivation as soon as the inner ones are closed. `State.Reads.step` keeps the invariant for one
token and `State.Reads.finish` turns it into a derivation of the whole row.
-/

namespace Scaffold.Stack

/-! ### Operands -/

/-- The comparison that a sign is between two values. -/
def Sign.comparison? : Sign → Option Comparison
  | equal => some .equal
  | notEqual => some .notEqual
  | _ => none

/-- The lexemes `ls` can stand on the right of an operator, with the tree `e`. -/
def Operand (ls : List Lexeme) (e : Expr) : Prop := Derives .value ls e ∨ Derives .unit ls e

namespace Derives

variable {ls rs : List Lexeme} {l r e : Expr}

theorem value_of_isLeaf (h : Derives .expression ls e) (he : e.isLeaf = true) :
    Derives .value ls e := by
  cases h with
  | ofValue h => exact h
  | ofCondition h => rw [h.not_isLeaf_of_condition] at he; cases he

theorem condition_of_not_isLeaf (h : Derives .expression ls e) (he : e.isLeaf = false) :
    Derives .condition ls e := by
  cases h with
  | ofValue h => rw [h.isLeaf_of_value] at he; cases he
  | ofCondition h => exact h

theorem comparison {s : Sign} {op : Comparison} (hs : s.comparison? = some op)
    (hl : Derives .value ls l) (hr : Derives .value rs r) :
    Derives .unit (ls ++ .sign s :: rs) (.comparison op l r) := by
  cases s with
  | equal => cases hs; exact .equal hl hr
  | notEqual => cases hs; exact .notEqual hl hr
  | and | or | xor => cases hs

theorem paren (h : Derives .expression ls e) : Operand (.opening :: (ls ++ [.closing])) e := by
  cases h with
  | ofValue h => exact .inl (.valueGroup h)
  | ofCondition h => exact .inr (.conditionGroup h)

end Derives

namespace Operand

variable {ls : List Lexeme} {e : Expr}

theorem value (h : Operand ls e) (he : e.isLeaf = true) : Derives .value ls e := by
  rcases h with h | h
  · exact h
  · rw [h.not_isLeaf_of_unit] at he; cases he

theorem unit (h : Operand ls e) (he : e.isLeaf = false) : Derives .unit ls e := by
  rcases h with h | h
  · rw [h.isLeaf_of_value] at he; cases he
  · exact h

theorem expression (h : Operand ls e) : Derives .expression ls e := by
  rcases h with h | h
  · exact .ofValue h
  · exact .ofCondition (.ofUnit h)

end Operand

/-! ### One scope -/

namespace Scope

/-- The scopes that the text opens and closes itself. -/
def Kind.IsBracket (k : Kind) : Prop := k = .root ∨ k = .group

/-- The trees that a scope of kind `k` can hold, with their lexemes. -/
def Kind.Admits : Kind → List Lexeme → Expr → Prop
  | .root, ls, e | .group, ls, e => Derives .expression ls e
  | .operand, ls, e => Operand ls e
  | .negation, ls, e => Derives .unit ls e

/-- What a scope has read of its own: `ls`, without the lexeme that opened it and without the
scopes above it. -/
inductive Holds : Scope → (ls : List Lexeme) → Prop
  | empty {k : Kind} {i : Nat} (hk : k.IsBracket) : Holds ⟨k, i, none, none⟩ []
  | tree {k : Kind} {i : Nat} {ls : List Lexeme} {e : Expr} (h : k.Admits ls e) :
      Holds ⟨k, i, some e, none⟩ ls
  | comparing {k : Kind} {i j : Nat} {ls : List Lexeme} {e : Expr} {s : Sign} {op : Comparison}
      (hk : k ≠ .negation) (h : Derives .value ls e) (hs : s.comparison? = some op) :
      Holds ⟨k, i, some e, some ⟨.comparison op, j⟩⟩ (ls ++ [.sign s])
  | joining {k : Kind} {i j : Nat} {ls : List Lexeme} {e : Expr} {s : Sign} (hk : k.IsBracket)
      (h : Derives .condition ls e) :
      Holds ⟨k, i, some e, some ⟨.connective s.connective, j⟩⟩ (ls ++ [.sign s])
  | bang {i j : Nat} : Holds ⟨.negation, i, none, some ⟨.not, j⟩⟩ [.bang]

/-- The lexeme that opened a scope, if it is not what the scope holds. -/
def Kind.opener : Kind → List Lexeme
  | .group => [.opening]
  | _ => []

/-- Can a scope of kind `k` lie directly above `outer`? -/
def Awaits (outer : Scope) : Kind → Prop
  | .root => False
  | .group => outer.node = none ∨ outer.pending ≠ none
  | .negation => outer.kind ≠ .negation ∧ (outer.node = none ∨ outer.pending ≠ none)
  | .operand => ∃ op j, outer.pending = some ⟨.connective op, j⟩

variable {s s' outer inner : Scope} {k : Kind} {p : Pending} {ls ls' : List Lexeme} {e : Expr}
  {i : Nat}

theorem Kind.IsBracket.admits (hk : k.IsBracket) (h : Derives .expression ls e) :
    k.Admits ls e := by
  rcases hk with rfl | rfl <;> exact h

theorem Kind.admits_unit (h : Derives .unit ls e) : k.Admits ls e := by
  cases k with
  | root | group => exact .ofCondition (.ofUnit h)
  | operand => exact .inr h
  | negation => exact h

theorem Kind.Admits.value (h : k.Admits ls e) (he : e.isLeaf = true) :
    k ≠ .negation ∧ Derives .value ls e := by
  cases k with
  | root | group => exact ⟨by simp, h.value_of_isLeaf he⟩
  | operand => exact ⟨by simp, Operand.value h he⟩
  | negation => rw [Derives.not_isLeaf_of_unit h] at he; cases he

theorem Kind.Admits.operand (h : k.Admits ls e) (hk : ¬ k.IsBracket) : Operand ls e := by
  cases k with
  | root => exact absurd (.inl rfl) hk
  | group => exact absurd (.inr rfl) hk
  | operand => exact h
  | negation => exact .inr h

theorem Holds.eq_bang (h : s.Holds ls) (hk : s.kind = .negation)
    (hw : s.node = none ∨ s.pending ≠ none) :
    ∃ i j, s = ⟨.negation, i, none, some ⟨.not, j⟩⟩ ∧ ls = [.bang] := by
  cases h with
  | empty hb => rcases hb with rfl | rfl <;> cases hk
  | tree _ => simp at hw
  | comparing hne _ _ => exact absurd hk hne
  | joining hb _ => rcases hb with rfl | rfl <;> cases hk
  | bang => exact ⟨_, _, rfl, rfl⟩

/-- The waiting operator of a scope takes its right operand. -/
theorem Holds.resolve (h : s.Holds ls) (hp : s.pending = some p) (hk : s.kind ≠ .negation)
    (ho : Operand ls' e) (hr : s.resolve p e i = .ok s') :
    s'.Holds (ls ++ ls') ∧ s'.kind = s.kind := by
  -- a scope with an operator that waits is comparing or joining, unless it is a negation
  cases h with
  | empty _ => cases hp
  | tree _ => cases hp
  | bang => exact absurd rfl hk
  | @comparing k i j ls l sign op _ hl hs =>
    cases hp
    simp only [Scope.resolve] at hr
    split at hr
    · next he =>
      cases hr
      rw [List.append_assoc, List.singleton_append]
      exact ⟨.tree (Kind.admits_unit (.comparison hs hl (ho.value he))), rfl⟩
    · cases hr
  | @joining k i j ls l sign hb hl =>
    cases hp
    simp only [Scope.resolve] at hr
    split at hr
    · cases hr
    · next he =>
      cases hr
      rw [List.append_assoc, List.singleton_append]
      exact ⟨.tree (hb.admits (.ofCondition (.join sign hl (ho.unit (by simpa using he))))), rfl⟩

/-- A scope that waits for another one takes its operand. -/
theorem Holds.absorb (ho : outer.Holds ls) (hi : inner.Holds ls') (hk : ¬ inner.kind.IsBracket)
    (hw : outer.Awaits inner.kind) (h : outer.absorb inner = .ok s) :
    s.Holds (ls ++ ls') ∧ s.kind = outer.kind := by
  have hneg : outer.kind ≠ .negation := by
    rintro hn
    cases hik : inner.kind with
    | root => exact hk (.inl hik)
    | group => exact hk (.inr hik)
    | negation => rw [hik] at hw; exact hw.1 hn
    | operand =>
      rw [hik] at hw
      obtain ⟨op, j, hp⟩ := hw
      cases ho <;> simp_all [Kind.IsBracket]
  cases hi with
  | empty hk' => exact absurd hk' hk
  | comparing _ _ _ => cases h
  | joining _ _ => cases h
  | bang => cases h
  | @tree k i ls' e ha =>
    have hop := ha.operand hk
    -- the outer scope waits, for the right operand of an operator or for its first one
    match hp : outer.pending, hn : outer.node with
    | some p, _ =>
      simp only [Scope.absorb, hp] at h
      exact ho.resolve hp hneg hop h
    | none, some _ => simp [Scope.absorb, hp, hn] at h
    | none, none =>
      simp only [Scope.absorb, hp, hn, Except.ok.injEq] at h
      subst h
      cases ho with
      | empty hk => exact ⟨.tree (hk.admits hop.expression), rfl⟩
      | tree _ => cases hn
      | comparing _ _ _ => cases hn
      | joining _ _ => cases hn
      | bang => cases hp

end Scope

/-! ### The stack of scopes -/

/-- The open scopes, innermost first, have read the lexemes `ls`. -/
inductive Scopes : List Scope → (ls : List Lexeme) → Prop
  | root {s : Scope} {ls : List Lexeme} (hk : s.kind = .root) (h : s.Holds ls) : Scopes [s] ls
  | cons {s outer : Scope} {below : List Scope} {ls own : List Lexeme}
      (hb : Scopes (outer :: below) ls) (hw : outer.Awaits s.kind) (h : s.Holds own) :
      Scopes (s :: outer :: below) (ls ++ s.kind.opener ++ own)

namespace Scopes

variable {s s' top outer : Scope} {below below' : List Scope} {ls own : List Lexeme}

theorem kind_eq_root (h : Scopes [s] ls) : s.kind = .root := by
  cases h with
  | root hk _ => exact hk

theorem top_eq (h : Scopes (top :: below) ls) :
    ∃ pre own, ls = pre ++ own ∧ top.Holds own ∧
      ∀ s own', s.kind = top.kind → s.Holds own' → Scopes (s :: below) (pre ++ own') := by
  cases h with
  | root hk h => exact ⟨[], ls, rfl, h, fun s own' hs h' => .root (hs.trans hk) h'⟩
  | @cons _ outer below ls own hb hw h =>
    refine ⟨_, own, rfl, h, fun s own' hs h' => ?_⟩
    rw [← hs] at hw ⊢
    exact .cons hb hw h'

theorem kind_ne_root (h : Scopes (s :: outer :: below) ls) : s.kind ≠ .root := by
  cases h with
  | cons _ hw _ => intro hk; rw [hk] at hw; exact hw

theorem absorb (h : Scopes (s :: outer :: below) ls) (hk : s.kind ≠ .group)
    (ha : outer.absorb s = .ok s') : Scopes (s' :: below) ls ∧ s'.kind = outer.kind := by
  have hb : ¬ s.kind.IsBracket := fun hb => hb.elim h.kind_ne_root hk
  cases h with
  | @cons _ _ _ ls own h hw hs =>
    obtain ⟨pre, own', rfl, ho, hrep⟩ := h.top_eq
    obtain ⟨h', hkind⟩ := ho.absorb hs hb hw ha
    have hopen : s.kind.opener = [] := by
      cases hsk : s.kind <;> simp_all [Scope.Kind.opener]
    rw [hopen, List.append_nil, List.append_assoc]
    exact ⟨hrep s' _ hkind h', hkind⟩

/-- Closing scopes keeps what was read and the groups, as long as no group is closed. -/
theorem closeWhile {p : Scope → Bool} (h : Scopes (top :: below) ls)
    (hp : ∀ s, p s = true → s.kind ∈ (top :: below).map (·.kind) → s.kind ≠ .group)
    (hc : Scope.closeWhile p top below = .ok (s, below')) :
    Scopes (s :: below') ls ∧
      (s :: below').countP (·.kind == .group) = (top :: below).countP (·.kind == .group) ∧
      (below' = [] ∨ p s = false) := by
  induction below generalizing top with
  | nil => cases hc; exact ⟨h, rfl, .inl rfl⟩
  | cons outer below ih =>
    rw [Scope.closeWhile] at hc
    split at hc
    · next htop =>
      obtain ⟨s', hs', hc⟩ := bind_eq_ok.1 hc
      have hg := hp top htop (by simp)
      obtain ⟨h', hkind⟩ := h.absorb hg hs'
      obtain ⟨hr, hcount, hstop⟩ := ih h' (fun s hs hm => hp s hs (by
        rw [List.map_cons, hkind] at hm; exact List.mem_cons_of_mem _ hm)) hc
      refine ⟨hr, hcount.trans ?_, hstop⟩
      simp [List.countP_cons, hkind, hg]
    · next htop =>
      cases hc
      exact ⟨h, rfl, .inr (by simpa using htop)⟩

theorem getLast?_of_bang (h : Scopes (s :: below) ls) (hk : s.kind = .negation)
    (hw : s.node = none ∨ s.pending ≠ none) : ls.getLast? = some .bang := by
  obtain ⟨pre, own, rfl, ho, -⟩ := h.top_eq
  obtain ⟨i, j, -, rfl⟩ := ho.eq_bang hk hw
  simp

end Scopes

/-! ### The machine -/

namespace State

/-- The machine is in state `st` once it has consumed the lexemes `ls`. -/
structure Reads (st : State) (ls : List Lexeme) : Prop where
  scopes : Scopes st.scopes ls
  groups : st.groups = st.scopes.countP (·.kind == .group)

namespace Reads

variable {st st' : State} {ls ls' : List Lexeme} {e : Expr} {c : Char} {i : Nat}

theorem start : State.start.Reads [] := ⟨.root rfl (.empty (.inl rfl)), rfl⟩

theorem closeWhile {p : Scope → Bool} (h : st.Reads ls)
    (hp : ∀ s, p s = true → s.kind ∈ st.scopes.map (·.kind) → s.kind ≠ .group)
    (hc : st.closeWhile p = .ok st') :
    st'.Reads ls ∧ st'.groups = st.groups ∧ (st'.below = [] ∨ p st'.top = false) := by
  obtain ⟨⟨top, below⟩, hclose, hst⟩ := bind_eq_ok.1 hc
  cases hst
  obtain ⟨hr, hcount, hstop⟩ := h.scopes.closeWhile hp hclose
  exact ⟨⟨hr, h.groups.trans hcount.symm⟩, rfl, hstop⟩

theorem collapse (h : st.Reads ls) (hc : st.closeWhile Scope.isComplete = .ok st') :
    st'.Reads ls ∧ st'.groups = st.groups ∧ (st'.below = [] ∨ st'.top.isComplete = false) := by
  refine h.closeWhile (fun s hs _ hk => ?_) hc
  simp [Scope.isComplete, Scope.isImplicit, hk] at hs

theorem replace {s : Scope} (h : st.Reads ls) (hk : s.kind = st.top.kind)
    (hs : Scopes (s :: st.below) ls') : State.Reads { st with top := s } ls' :=
  ⟨hs, by rw [h.groups]; simp [State.scopes, List.countP_cons, hk]⟩

theorem push {s : Scope} (h : st.Reads ls) (hw : st.top.Awaits s.kind) (hs : s.Holds ls')
    (hk : s.kind ≠ .group) : (st.push s).Reads (ls ++ s.kind.opener ++ ls') :=
  ⟨.cons h.scopes hw hs, by rw [State.push, h.groups]; simp [State.scopes, List.countP_cons, hk]⟩

/-- An operand arrives that does not belong to a `!`. -/
theorem arrive (h : st.Reads ls) (hneg : st.top.kind = .negation → st.top.node ≠ none)
    (ho : Operand ls' e) (ha : st.arrive e c i = .ok st') : st'.Reads (ls ++ ls') := by
  obtain ⟨pre, own, rfl, htop, hrep⟩ := h.scopes.top_eq
  obtain ⟨top, below, groups⟩ := st
  rw [List.append_assoc]
  -- where an operator waits, the operand goes to it
  have hresolve : ∀ p, top.pending = some p → top.kind ≠ .negation →
      (do return { top := ← top.resolve p e i, below, groups : State }) = Except.ok st' →
      st'.Reads (pre ++ (own ++ ls')) := fun p hp hk hr => by
    obtain ⟨s, hs, hst⟩ := bind_eq_ok.1 hr
    cases hst
    obtain ⟨hh, hkind⟩ := htop.resolve hp hk ho hs
    exact h.replace hkind (hrep s _ hkind hh)
  cases htop with
  | empty hk =>
    cases ha
    exact h.replace rfl (hrep _ ls' rfl (.tree (hk.admits ho.expression)))
  | tree _ => cases ha
  | comparing hk _ _ => exact hresolve _ rfl hk ha
  | @joining k j m own l sign hk _ =>
    cases he : e.isLeaf with
    | false =>
      simp only [State.arrive, he] at ha
      refine hresolve _ rfl ?_ ha
      rcases hk with rfl | rfl <;> simp
    | true =>
      simp only [State.arrive, he, Except.ok.injEq] at ha
      subst ha
      -- a leaf may yet be compared before it is joined, so that it gets a scope of its own
      have := h.push (s := ⟨.operand, i, some e, none⟩) ⟨_, _, rfl⟩ (.tree ho) (by simp)
      simpa [Scope.Kind.opener] using this
  | bang => exact absurd rfl (hneg rfl)

theorem expectOperand (h : st.Reads ls) (he : st.expectOperand c i = .ok st') :
    st'.Reads ls ∧ (st'.top.node = none ∨ st'.top.pending ≠ none) := by
  obtain ⟨st₁, hc, he⟩ := bind_eq_ok.1 he
  obtain ⟨hr, -, -⟩ := h.collapse hc
  dsimp only at he
  split at he
  · cases he
  · next hw =>
    cases he
    refine ⟨hr, ?_⟩
    cases hn : st'.top.node with
    | none => exact .inl rfl
    | some e => exact .inr (by simpa [hn] using hw)

theorem openGroup (h : st.Reads ls) (ho : st.openGroup i = .ok st') :
    st'.Reads (ls ++ [.opening]) := by
  obtain ⟨st₁, he, ho⟩ := bind_eq_ok.1 ho
  cases ho
  obtain ⟨hr, hw⟩ := h.expectOperand he
  refine ⟨?_, ?_⟩
  · have hs := Scopes.cons (s := ⟨.group, i, none, none⟩) hr.scopes hw (.empty (.inr rfl))
    rwa [List.append_nil] at hs
  · have := hr.groups
    simp_all [State.scopes, State.push, List.countP_cons]

theorem openNegation (h : st.Reads ls) (hbang : ls.getLast? ≠ some .bang)
    (ho : st.openNegation i = .ok st') : st'.Reads (ls ++ [.bang]) := by
  obtain ⟨st₁, he, ho⟩ := bind_eq_ok.1 ho
  cases ho
  obtain ⟨hr, hw⟩ := h.expectOperand he
  have hk : st₁.top.kind ≠ .negation := fun hk => hbang (hr.scopes.getLast?_of_bang hk hw)
  have := hr.push (s := ⟨.negation, i, none, some ⟨.not, i⟩⟩) ⟨hk, hw⟩ .bang (by simp)
  simpa [Scope.Kind.opener] using this

theorem group_eq {top outer : Scope} {below : List Scope} {groups : Nat}
    (h : State.Reads ⟨top, outer :: below, groups⟩ ls) (himp : top.isImplicit = false) :
    ∃ ls₀ own, ls = ls₀ ++ .opening :: own ∧ top.Holds own ∧ top.kind = .group ∧
      outer.Awaits .group ∧ State.Reads ⟨outer, below, groups - 1⟩ ls₀ := by
  obtain ⟨hs, hg⟩ := h
  cases hs with
  | @cons _ _ _ ls₀ own hb hw ht =>
    have hk : top.kind = .group := by
      cases hk : top.kind <;> simp_all [Scope.isImplicit, Scope.Awaits]
    rw [hk] at hw ⊢
    refine ⟨ls₀, own, by simp [Scope.Kind.opener], ht, rfl, hw, hb, ?_⟩
    simp_all [State.scopes, List.countP_cons]

theorem closeGroup (h : st.Reads ls) (hc : st.closeGroup i = .ok st') :
    st'.Reads (ls ++ [.closing]) := by
  obtain ⟨⟨top, below, groups⟩, hclose, hc⟩ := bind_eq_ok.1 hc
  obtain ⟨hr, -, hstop⟩ := h.closeWhile (fun s hs _ hk => by
    simp [Scope.isImplicit, hk] at hs) hclose
  match groups, below with
  | 0, _ => cases hc
  | _ + 1, [] => cases hc
  | groups + 1, outer :: below =>
    obtain ⟨ls₀, own, rfl, ht, hk, hw, hout⟩ := hr.group_eq (hstop.resolve_left (by simp))
    rw [List.append_assoc, List.cons_append]
    cases ht with
    | empty _ => cases hc
    | comparing _ _ _ => cases hc
    | joining _ _ => cases hc
    | bang => cases hk
    | @tree k j own e he =>
      obtain rfl : k = .group := hk
      by_cases hneg : outer.kind = .negation ∧ outer.node = none
      · -- the parentheses belong to a `!`
        obtain ⟨pre, own', rfl, ho, hrep⟩ := hout.scopes.top_eq
        obtain ⟨m, n, rfl, rfl⟩ := ho.eq_bang hneg.1 (.inl hneg.2)
        cases hc
        rw [List.append_assoc]
        exact hout.replace rfl (hrep _ _ rfl (.tree (Derives.not he)))
      · exact hout.arrive (fun hk hn => hneg ⟨hk, hn⟩) (Derives.paren he) hc

theorem operatorOf_of_not_isLeaf {sign : Sign} (he : e.isLeaf = false) :
    operatorOf sign e = .connective sign.connective := by
  cases sign <;> simp [operatorOf, Sign.connective, he]

/-- A sign takes the tree on its left. -/
theorem operate {sign : Sign} (h : st.Reads ls) (ho : st.operate sign i = .ok st') :
    st'.Reads (ls ++ [.sign sign]) := by
  obtain ⟨⟨top, below, groups⟩, hclose, ho⟩ := bind_eq_ok.1 ho
  obtain ⟨hr, -, hstop⟩ := h.collapse hclose
  obtain ⟨pre, own, rfl, ht, hrep⟩ := hr.scopes.top_eq
  rw [List.append_assoc]
  cases ht with
  | empty _ => cases ho
  | comparing _ _ _ => cases ho
  | joining _ _ => cases ho
  | bang => cases ho
  | @tree k j own e he =>
    cases hleaf : e.isLeaf with
    | true =>
      obtain ⟨hk, hv⟩ := he.value hleaf
      cases sign with
      | equal | notEqual =>
        simp only [operatorOf, hleaf, if_true] at ho
        cases ho
        exact hr.replace rfl (hrep _ _ rfl (.comparing hk hv rfl))
      | and | or | xor => simp only [operatorOf, hleaf] at ho; cases ho
    | false =>
      -- an implicit scope that holds a condition would have been closed
      have hk : k.IsBracket := by
        rcases hstop with hb | hcomp
        · cases hb; exact .inl hr.scopes.kind_eq_root
        · cases k <;> simp_all [Scope.isComplete, Scope.isImplicit, Scope.Kind.IsBracket]
      have hd : Derives .condition own e := by
        rcases hk with rfl | rfl <;> exact Derives.condition_of_not_isLeaf he hleaf
      simp only [operatorOf_of_not_isLeaf hleaf, hleaf] at ho
      cases ho
      exact hr.replace rfl (hrep _ _ rfl (.joining hk hd))

theorem step {t : Token} (h : st.Reads ls) (hbang : ls.getLast? = some .bang → t.lexeme = .opening)
    (hs : st.step t = .ok st') : st'.Reads (ls ++ [t.lexeme]) := by
  have hneg : t.lexeme ≠ .opening → st.top.kind = .negation → st.top.node ≠ none :=
    fun ht hk hn => ht (hbang (h.scopes.getLast?_of_bang hk (.inl hn)))
  unfold State.step at hs
  split at hs
  · next hl => rw [hl]; exact h.openGroup hs
  · next hl => rw [hl]; exact h.closeGroup hs
  · next hl => rw [hl]; exact h.openNegation (fun hb => by simp [hl] at hbang; exact hbang hb) hs
  · next hl => rw [hl]; exact h.operate hs
  · next hl => rw [hl]; exact h.arrive (hneg (by simp [hl])) (.inl (.reference _)) hs
  · next hl => rw [hl]; exact h.arrive (hneg (by simp [hl])) (.inl (.literal _ _)) hs

theorem run {ts : List Token} (h : st.Reads ls)
    (hbang : (ls ++ ts.map (·.lexeme)).IsChain fun a b => a = .bang → b = .opening)
    (hs : ts.foldlM State.step st = .ok st') : st'.Reads (ls ++ ts.map (·.lexeme)) := by
  induction ts generalizing st ls with
  | nil => cases hs; simpa using h
  | cons t ts ih =>
    rw [List.foldlM_cons] at hs
    obtain ⟨st₁, h₁, hs⟩ := bind_eq_ok.1 hs
    rw [List.map_cons, List.append_cons] at hbang ⊢
    refine ih (h.step (fun hb => ?_) h₁) hbang hs
    have hl := (List.isChain_append.1 (List.isChain_append.1 hbang).1).2.2
    exact hl .bang hb t.lexeme rfl rfl

/-- The scopes that are open at the end are closed into the root. -/
theorem finish (h : st.Reads ls) (hf : st.finish = .ok e) : Derives .expression ls e := by
  have hg : st.groups = 0 := by
    by_contra hg
    rw [State.finish, if_pos hg] at hf
    split at hf <;> cases hf
  have hnone : ∀ k ∈ st.scopes.map (·.kind), k ≠ Scope.Kind.group := by
    have hcount := h.groups
    rw [hg, eq_comm, List.countP_eq_zero] at hcount
    intro k hk
    obtain ⟨s, hs, rfl⟩ := List.mem_map.1 hk
    simpa using hcount s hs
  rw [State.finish, if_neg (by simp [hg])] at hf
  obtain ⟨⟨top, below, groups⟩, hclose, hf⟩ := bind_eq_ok.1 hf
  obtain ⟨hr, -, hstop⟩ := h.closeWhile (fun s _ hm => hnone _ hm) hclose
  obtain rfl : below = [] := hstop.resolve_right (by simp)
  obtain ⟨hs, -⟩ := hr
  cases hs with
  | root hk ht =>
    cases ht with
    | empty _ => cases hf
    | comparing _ _ _ => cases hf
    | joining _ _ => cases hf
    | bang => cases hk
    | @tree k j _ e' he => cases hk; cases hf; exact he

end Reads

end State

end Scaffold.Stack
