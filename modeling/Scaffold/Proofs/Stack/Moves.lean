import Scaffold.Proofs.Outcome
import Scaffold.Proofs.Stack.Scopes
import Scaffold.Proofs.Stack.Spelling

/-!
# What a token does to the open scopes

`Reached text before after st`: the machine is in state `st` once it has taken the tokens `before`
of `text`, and `after` are still to come. What one token can do to the scopes is `Effect`: it closes
innermost scopes that are no groups, and then opens a scope, gives the innermost one an operator or
gives it an operand. It says where every scope of the new state comes from, so that what holds of
all open scopes, or of the row of open groups, need not look into the moves again:
`Reached.invariant` is the induction over the tokens of a text.
-/

namespace Scaffold.Stack

/-! ### Closing scopes -/

/-- What is left of the scope `s₀`: another tree perhaps, and no operator that `s₀` had not. -/
structure Scope.Continues (s s₀ : Scope) : Prop where
  kind : s.kind = s₀.kind
  index : s.index = s₀.index
  pending : s.pending = none ∨ s.pending = s₀.pending

namespace Scope

variable {s s' s₀ outer inner top : Scope} {below below' : List Scope} {p : Pending} {e : Expr}
  {i : Nat}

theorem Continues.refl (s : Scope) : s.Continues s := ⟨rfl, rfl, .inr rfl⟩

theorem Continues.trans {s₁ s₂ s₃ : Scope} (h : s₁.Continues s₂) (h' : s₂.Continues s₃) :
    s₁.Continues s₃ := by
  refine ⟨h.kind.trans h'.kind, h.index.trans h'.index, ?_⟩
  rcases h.pending with hp | hp
  · exact .inl hp
  · rcases h'.pending with hp' | hp'
    · exact .inl (hp.trans hp')
    · exact .inr (hp.trans hp')

theorem continues_resolve (h : s.resolve p e i = .ok s') : s'.Continues s := by
  unfold resolve at h
  split at h
  · cases h; exact ⟨rfl, rfl, .inl rfl⟩
  · split at h <;> cases h; exact ⟨rfl, rfl, .inl rfl⟩
  · split at h <;> cases h; exact ⟨rfl, rfl, .inl rfl⟩
  · cases h

theorem continues_absorb (h : outer.absorb inner = .ok s') : s'.Continues outer := by
  unfold absorb at h
  split at h
  · cases h
  · cases h
  · split at h
    · exact continues_resolve h
    · cases h; exact ⟨rfl, rfl, .inr rfl⟩
    · cases h

/-- The innermost scope that stays open continues one that was open, those below it are untouched,
and the others were closed one by one. -/
theorem closeWhile_continues {q : Scope → Bool} (h : closeWhile q top below = .ok (s, below')) :
    ∃ gone s₀, top :: below = gone ++ s₀ :: below' ∧ s.Continues s₀ ∧
      ∀ g ∈ gone, ∃ g', q g' = true ∧ g'.Continues g := by
  induction below generalizing top with
  | nil =>
    cases h
    exact ⟨[], s, rfl, .refl s, by simp⟩
  | cons outer below ih =>
    rw [closeWhile] at h
    split at h
    · next hq =>
      obtain ⟨s', hs', h⟩ := bind_eq_ok.1 h
      have hs' := continues_absorb hs'
      obtain ⟨gone, s₀, hsplit, hs, hgone⟩ := ih h
      have htop : ∃ g', q g' = true ∧ g'.Continues top := ⟨top, hq, .refl top⟩
      cases gone with
      | nil =>
        -- the scope that took `top` stays open
        obtain ⟨rfl, rfl⟩ := List.cons.inj hsplit
        exact ⟨[top], outer, rfl, hs.trans hs', by simpa using htop⟩
      | cons g gone =>
        obtain ⟨rfl, rfl⟩ := List.cons.inj hsplit
        rw [List.forall_mem_cons] at hgone
        obtain ⟨g', hq', hg'⟩ := hgone.1
        refine ⟨top :: outer :: gone, s₀, rfl, hs, ?_⟩
        simp only [List.forall_mem_cons]
        exact ⟨htop, ⟨g', hq', hg'.trans hs'⟩, hgone.2⟩
    · cases h
      exact ⟨[], s, rfl, .refl s, by simp⟩

end Scope

/-- What is left of the open scopes when some innermost ones, which are no groups, are closed. -/
inductive Shrinks : List Scope → List Scope → Prop
  | intro {gone below : List Scope} {s s₀ : Scope} (hs : s.Continues s₀)
      (hgone : ∀ g ∈ gone, g.kind ≠ .group) : Shrinks (gone ++ s₀ :: below) (s :: below)

/-- An operand that begins at index `i` goes into the innermost scope, or waits in a scope of its
own. -/
inductive Arrives (i : Nat) : List Scope → List Scope → Prop
  | taken {s s₀ : Scope} {below : List Scope} (h : s.Continues s₀) :
      Arrives i (s₀ :: below) (s :: below)
  | held {scopes : List Scope} (e : Expr) :
      Arrives i scopes (⟨.operand, i, some e, none⟩ :: scopes)

/-- What the token `t` does to the open scopes `scopes`. -/
inductive Effect (t : Token) (scopes : List Scope) : List Scope → Prop
  | openGroup {rest : List Scope} (ht : t.lexeme = .opening) (h : Shrinks scopes rest) :
      Effect t scopes (⟨.group, t.start, none, none⟩ :: rest)
  | closeGroup {g outer : Scope} {below rest : List Scope} (ht : t.lexeme = .closing)
      (h : Shrinks scopes (g :: outer :: below)) (hg : g.kind = .group)
      (ha : Arrives g.index (outer :: below) rest) : Effect t scopes rest
  | openNegation {rest : List Scope} (ht : t.lexeme = .bang) (h : Shrinks scopes rest) :
      Effect t scopes (⟨.negation, t.start, none, some ⟨.not, t.start⟩⟩ :: rest)
  | operate {sign : Sign} {op : Operator} {s : Scope} {below : List Scope}
      (ht : t.lexeme = .sign sign) (h : Shrinks scopes (s :: below))
      (hop : op.symbol = (State.nominal sign).symbol) :
      Effect t scopes ({ s with pending := some ⟨op, t.start⟩ } :: below)
  | operand {rest : List Scope} (hb : t.lexeme.begins = true) (he : t.lexeme.ends = true)
      (ha : Arrives t.start scopes rest) : Effect t scopes rest

/-! ### The moves of the machine -/

namespace State

variable {st st' : State} {i : Nat} {ls : List Lexeme} {t : Token}

theorem symbol_operatorOf (sign : Sign) (left : Expr) :
    (operatorOf sign left).symbol = (nominal sign).symbol := by
  cases sign <;> cases h : left.isLeaf <;> simp [operatorOf, nominal, h] <;> rfl

theorem exists_continued {p : Scope → Bool} (h : st.closeWhile p = .ok st') :
    ∃ s₀ ∈ st.scopes, st'.top.Continues s₀ := by
  obtain ⟨⟨s, below⟩, hclose, hst⟩ := bind_eq_ok.1 h
  cases hst
  obtain ⟨gone, s₀, hsplit, hs, -⟩ := Scope.closeWhile_continues hclose
  exact ⟨s₀, by rw [State.scopes, hsplit]; simp, hs⟩

theorem shrinks_of_closeWhile {p : Scope → Bool} (hp : ∀ s, p s = true → s.kind ≠ .group)
    (h : st.closeWhile p = .ok st') : Shrinks st.scopes st'.scopes := by
  obtain ⟨⟨s, below⟩, hclose, hst⟩ := bind_eq_ok.1 h
  cases hst
  obtain ⟨gone, s₀, hsplit, hs, hgone⟩ := Scope.closeWhile_continues hclose
  rw [State.scopes, hsplit]
  refine .intro hs fun g hg => ?_
  obtain ⟨g', hp', hg'⟩ := hgone g hg
  rw [← hg'.kind]
  exact hp g' hp'

theorem shrinks_of_collapse (h : st.closeWhile Scope.isComplete = .ok st') :
    Shrinks st.scopes st'.scopes :=
  shrinks_of_closeWhile (fun s hs hk => by simp [Scope.isComplete, Scope.isImplicit, hk] at hs) h

theorem shrinks_of_expectOperand {c : Char} (h : st.expectOperand c i = .ok st') :
    Shrinks st.scopes st'.scopes := by
  obtain ⟨st₁, hc, h⟩ := bind_eq_ok.1 h
  dsimp only at h
  split at h
  · cases h
  · cases h; exact shrinks_of_collapse hc

theorem arrives_of_arrive {e : Expr} {c : Char} (h : st.arrive e c i = .ok st') :
    Arrives i st.scopes st'.scopes := by
  unfold State.arrive at h
  split at h
  · cases h
  · cases h
    exact .taken ⟨rfl, rfl, .inr rfl⟩
  · split at h
    · cases h; exact .held _
    · obtain ⟨s, hs, h⟩ := bind_eq_ok.1 h
      cases h
      exact .taken (Scope.continues_resolve hs)

theorem Reads.effect_of_closeGroup (h : st.Reads ls) (ht : t.lexeme = .closing)
    (hc : st.closeGroup t.start = .ok st') : Effect t st.scopes st'.scopes := by
  have himp : ∀ s : Scope, s.isImplicit = true → s.kind ≠ .group := fun s hs hk => by
    simp [Scope.isImplicit, hk] at hs
  obtain ⟨⟨top, below, groups⟩, hclose, hc⟩ := bind_eq_ok.1 hc
  obtain ⟨hr, -, hstop⟩ := h.closeWhile (fun s hs _ => himp s hs) hclose
  have hshrinks := shrinks_of_closeWhile himp hclose
  cases groups with
  | zero => cases hc
  | succ groups =>
    cases below with
    | nil => cases hc
    | cons outer below =>
      obtain ⟨-, -, -, -, hk, -, -⟩ := hr.group_eq (hstop.resolve_left (by simp))
      dsimp only at hc
      split at hc
      · cases hc
      · cases hc
      · exact .closeGroup ht hshrinks hk (arrives_of_arrive hc)

theorem effect_of_operate {s : Sign} (ht : t.lexeme = .sign s)
    (ho : st.operate s t.start = .ok st') : Effect t st.scopes st'.scopes := by
  obtain ⟨st₁, hclose, ho⟩ := bind_eq_ok.1 ho
  dsimp only at ho
  split at ho
  · cases ho
  · cases ho
  · next left _ _ =>
    split at ho
    · cases ho
    · cases ho
      exact .operate ht (shrinks_of_collapse hclose) (symbol_operatorOf s left)

/-- Everything that one token can do. -/
theorem Reads.effect (h : st.Reads ls) (hs : st.step t = .ok st') :
    Effect t st.scopes st'.scopes := by
  unfold State.step at hs
  split at hs
  · next ht =>
    obtain ⟨st₁, he, hst⟩ := bind_eq_ok.1 hs
    cases hst
    exact .openGroup ht (shrinks_of_expectOperand he)
  · next ht => exact h.effect_of_closeGroup ht hs
  · next ht =>
    obtain ⟨st₁, he, hst⟩ := bind_eq_ok.1 hs
    cases hst
    exact .openNegation ht (shrinks_of_expectOperand he)
  · next ht => exact effect_of_operate ht hs
  · next ht => exact .operand (by rw [ht]; rfl) (by rw [ht]; rfl) (arrives_of_arrive hs)
  · next ht => exact .operand (by rw [ht]; rfl) (by rw [ht]; rfl) (arrives_of_arrive hs)

end State

/-! ### The tokens of a text -/

/-- From index `i` on, the characters `cs` are the tokens `ts`, each spelled at its own index, and
from index `j` on they are `rest`. -/
inductive Placed : (i : Nat) → (cs : List Char) → List Token → (j : Nat) → (rest : List Char) → Prop
  | nil {i : Nat} {cs : List Char} : Placed i cs [] i cs
  | blank {i j : Nat} {c : Char} {cs rest : List Char} {ts : List Token}
      (hc : Text.isBlank c = true) (h : Placed (i + 1) cs ts j rest) : Placed i (c :: cs) ts j rest
  | token {i j : Nat} {l : Lexeme} {w cs rest : List Char} {ts : List Token} (hw : Spells l w)
      (h : Placed (i + w.length) cs ts j rest) : Placed i (w ++ cs) (⟨i, l⟩ :: ts) j rest

namespace Placed

variable {i j : Nat} {cs rest : List Char} {ts : List Token} {t : Token}

theorem exists_append (h : Placed i cs ts j rest) :
    ∃ done, cs = done ++ rest ∧ j = i + done.length := by
  induction h with
  | nil => exact ⟨[], rfl, rfl⟩
  | @blank i j c _ _ _ _ _ ih =>
    obtain ⟨done, rfl, rfl⟩ := ih
    exact ⟨c :: done, rfl, by simp only [List.length_cons]; omega⟩
  | @token i j l w _ _ _ _ _ ih =>
    obtain ⟨done, rfl, rfl⟩ := ih
    exact ⟨w ++ done, by simp, by simp only [List.length_append]; omega⟩

theorem exists_spells (h : Placed i cs ts j rest) (ht : t ∈ ts) :
    ∃ done w rest', cs = done ++ (w ++ rest') ∧ t.start = i + done.length ∧ Spells t.lexeme w := by
  induction h with
  | nil => cases ht
  | @blank i j c _ _ _ _ _ ih =>
    obtain ⟨done, w, rest', rfl, hstart, hw⟩ := ih ht
    exact ⟨c :: done, w, rest', rfl, by simp only [List.length_cons]; omega, hw⟩
  | @token i j l w cs _ _ hw _ ih =>
    rcases List.mem_cons.1 ht with rfl | ht
    · exact ⟨[], w, cs, rfl, rfl, hw⟩
    · obtain ⟨done, w', rest', rfl, hstart, hw'⟩ := ih ht
      exact ⟨w ++ done, w', rest', by simp, by simp only [List.length_append]; omega, hw'⟩

end Placed

/-- A text is scanned up to its end, or up to a place where no lexeme begins. -/
theorem Scan.placed (i : Nat) (cs : List Char) :
    ∃ j rest, Placed i cs (Scan.run i cs).tokens j rest ∧
      ((Scan.run i cs).fault = none → rest = []) ∧
      ∀ e, (Scan.run i cs).fault = some e →
        ∃ c cs', rest = c :: cs' ∧ lexeme j c cs' = .error e := by
  fun_induction Scan.run i cs with
  | case1 i => exact ⟨i, [], .nil, fun _ => rfl, by simp⟩
  | case2 i c cs hc ih =>
    obtain ⟨j, rest, hp, hend, hfault⟩ := ih
    exact ⟨j, rest, .blank hc hp, hend, hfault⟩
  | case3 i c cs hc e he => exact ⟨i, c :: cs, .nil, by simp, by simpa using he⟩
  | case4 i c cs hc l rest hl ih =>
    obtain ⟨j, rest', hp, hend, hfault⟩ := ih
    obtain ⟨w, hw, hcs, -⟩ := spells_of_lexeme hl
    have hlen : i + 1 + (cs.length - rest.length) = i + w.length := by
      have hle := length_le_of_lexeme hl
      have := congrArg List.length hcs
      simp only [List.length_cons, List.length_append] at this
      omega
    rw [hlen] at hp hend hfault ⊢
    rw [hcs]
    exact ⟨j, rest', .token hw hp, hend, hfault⟩

theorem run_of_opening (i : Nat) (cs : List Char) :
    Scan.run i ('(' :: cs) = Scan.cons ⟨i, .opening⟩ (Scan.run (i + 1) cs) := by
  rw [Scan.run_lexeme (by decide) (show lexeme i '(' cs = .ok (.opening, cs) from rfl)]
  simp

/-- A `!` is a token only directly before a parenthesis. -/
theorem Scan.bang_chain (i : Nat) (cs : List Char) :
    (Scan.run i cs).tokens.IsChain fun t u => t.lexeme = .bang → u = ⟨t.start + 1, .opening⟩ := by
  fun_induction Scan.run i cs with
  | case1 => exact .nil
  | case2 i c cs hc ih => exact ih
  | case3 => exact .nil
  | case4 i c cs hc l rest hl ih =>
    refine List.isChain_cons.2 ⟨fun u hu hb => ?_, ih⟩
    obtain ⟨w, hw, hcs, hnext⟩ := spells_of_lexeme hl
    obtain ⟨cs', rfl⟩ : ∃ cs', rest = '(' :: cs' := by
      cases rest with
      | nil => simp at hnext; exact absurd hb hnext
      | cons d cs' => exact ⟨cs', by simpa using hnext hb⟩
    cases hb
    cases hw
    have hcs : cs = '(' :: cs' := (List.cons.inj hcs).2
    rw [hcs, Nat.sub_self, run_of_opening] at hu
    exact (Option.some.inj hu).symm

theorem Scan.getLast?_ne_bang (i : Nat) (cs : List Char) :
    ∀ t ∈ (Scan.run i cs).tokens.getLast?, t.lexeme ≠ .bang := by
  fun_induction Scan.run i cs with
  | case1 => simp
  | case2 i c cs hc ih => exact ih
  | case3 => simp
  | case4 i c cs hc l rest hl ih =>
    intro t ht
    rw [Scan.cons, List.getLast?_cons] at ht
    cases hlast : (Scan.run (i + 1 + (cs.length - rest.length)) rest).tokens.getLast? with
    | some u => rw [hlast] at ht; exact ih t (by rw [hlast]; exact ht)
    | none =>
      rw [hlast] at ht
      cases ht
      intro hb
      obtain ⟨w, -, -, hnext⟩ := spells_of_lexeme hl
      cases rest with
      | nil => simp at hnext; exact hnext hb
      | cons d cs' =>
        obtain rfl : d = '(' := by simpa using hnext hb
        rw [run_of_opening, Scan.cons, List.getLast?_cons] at hlast
        cases hlast

/-- While `text` is read, the machine is in state `st` after the tokens `before`, and the tokens
`after` are still to come. -/
structure Reached (text : String) (before after : List Token) (st : State) : Prop where
  tokens : (Scan.run 0 text.toList).tokens = before ++ after
  run : before.foldlM State.step State.start = .ok st

namespace Reached

variable {text : String} {before after : List Token} {t : Token} {st : State}

theorem reads (h : Reached text before after st) : st.Reads (before.map (·.lexeme)) := by
  have hchain := Scan.bang_chain 0 text.toList
  rw [h.tokens] at hchain
  have hbefore := (List.isChain_append.1 hchain).1
  refine State.Reads.start.run ?_ h.run
  rw [List.nil_append, List.isChain_map]
  exact hbefore.imp fun t u htu hb => by rw [htu hb]

theorem head?_of_bang (h : Reached text before after st) (ht : before.getLast? = some t)
    (hb : t.lexeme = .bang) : after.head? = some ⟨t.start + 1, .opening⟩ := by
  have hchain := Scan.bang_chain 0 text.toList
  have hlast := Scan.getLast?_ne_bang 0 text.toList
  rw [h.tokens] at hchain hlast
  cases after with
  | nil => exact absurd hb (hlast t (by simpa using ht))
  | cons u after => exact congrArg some ((List.isChain_append.1 hchain).2.2 t ht u rfl hb)

theorem opening_of_bang (h : Reached text before after st)
    (hb : (before.map (·.lexeme)).getLast? = some .bang) :
    after.head?.map (·.lexeme) = some .opening := by
  rw [List.getLast?_map, Option.map_eq_some_iff] at hb
  obtain ⟨t, ht, hb⟩ := hb
  rw [h.head?_of_bang ht hb]
  rfl

/-- What holds at the start and is kept by whatever a token does holds in every state that a reading
comes through. -/
theorem invariant {P : List Token → List Scope → Prop} (h : Reached text before after st)
    (hstart : P [] State.start.scopes)
    (hstep : ∀ done t scopes scopes', t ∈ (Scan.run 0 text.toList).tokens → P done scopes →
      Effect t scopes scopes' → P (done ++ [t]) scopes') : P before st.scopes := by
  induction before using List.reverseRecOn generalizing after st with
  | nil =>
    cases h.run
    exact hstart
  | append_singleton before t ih =>
    obtain ⟨htokens, hrun⟩ := h
    rw [List.foldlM_append] at hrun
    obtain ⟨st₁, hrun, hs⟩ := bind_eq_ok.1 hrun
    rw [List.foldlM_cons] at hs
    obtain ⟨st', hs, hst⟩ := bind_eq_ok.1 hs
    cases hst
    have hr : Reached text before (t :: after) st₁ := ⟨by rw [htokens]; simp, hrun⟩
    exact hstep before t _ _ (by rw [htokens]; simp) (ih hr) (hr.reads.effect hs)

end Reached

end Scaffold.Stack
