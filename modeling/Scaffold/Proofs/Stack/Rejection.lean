import Scaffold.Proofs.Stack.Moves

/-!
# How a reading breaks off

From a state that it has `Reached`, a reading breaks off in one of three ways (`Refused`): the text
has no further token (`LexFault`), the machine does not take the next one (`StepFault`), or it
cannot end (`FinishFault`). Each of these says everything that can be wrong there; what the invariant
of the open scopes rules out is not among it. `refused_of_parse` is the only place where the moves of
the machine are opened for their errors.
-/

namespace Scaffold.Stack

/-! ### Where no token can be formed -/

theorem Literal.escaped_of_body_eq_none {q : Char} {cs : List Char} (h : body q cs = none) :
    ∀ before after, cs = before ++ q :: after → before.getLast? = some '\\' := by
  fun_induction body q cs with
  | case1 => simp
  | case2 => cases h
  | case3 c hc =>
    rintro (_ | ⟨b, before⟩) after heq
    · exact absurd (List.cons.inj heq).1 hc
    · have := (List.cons.inj heq).2
      simp at this
  | case4 => cases h
  | case5 c d cs hc hesc ih =>
    have ih := ih (by simpa using h)
    rintro (_ | ⟨b, _ | ⟨b', before⟩⟩) after heq
    · exact absurd (List.cons.inj heq).1 hc
    · rw [← (List.cons.inj heq).1, hesc.1]; rfl
    · have hb := ih before after (List.cons.inj (List.cons.inj heq).2).2
      rw [List.getLast?_cons_cons, List.getLast?_cons, hb, Option.getD_some]
  | case6 c d cs hc hesc ih =>
    have ih := ih (by simpa using h)
    rintro (_ | ⟨b, before⟩) after heq
    · exact absurd (List.cons.inj heq).1 hc
    · have hb := ih before after (List.cons.inj heq).2
      rw [List.getLast?_cons, hb, Option.getD_some]

/-- What is wrong with `cs`, which begin at index `i`, when no token begins there. -/
inductive LexFault (i : Nat) (cs : List Char) : Fault.Located → Prop
  | character {k : Nat} {c : Char} (expected : Option Char) (h : cs[k]? = some c) :
      LexFault i cs ⟨i + k, .unexpected (some c) expected⟩
  | ending (expected : Option Char) : LexFault i cs ⟨i + cs.length, .unexpected none expected⟩
  | nameChar {k : Nat} {c : Char} (h : cs[k]? = some c) : LexFault i cs ⟨i + k, .invalidNameChar c⟩
  | emptyName (h : cs.head? = some '$') : LexFault i cs ⟨i, .emptyName⟩
  | unterminated {q : Char} {raw : List Char} (hq : q = '\'' ∨ q = '"') (hcs : cs = q :: raw)
      (h : ∀ before after, raw = before ++ q :: after → before.getLast? = some '\\') :
      LexFault i cs ⟨i, .unterminated⟩

section Lexeme

variable {i : Nat} {c : Char} {cs : List Char} {e : Fault.Located}

theorem lexFault_of_second {sign : Sign} {d : Char} (h : second i d sign cs = .error e) :
    LexFault i (c :: cs) e := by
  cases cs with
  | nil => cases h; exact .ending _
  | cons d' cs =>
    simp only [second] at h
    split at h
    · cases h
    · cases h; exact .character (k := 1) _ rfl

theorem lexFault_of_afterBang (h : afterBang i cs = .error e) : LexFault i ('!' :: cs) e := by
  cases cs with
  | nil => cases h; exact .ending _
  | cons d cs =>
    simp only [afterBang] at h
    split at h
    · cases h
    · exact lexFault_of_second h

theorem lexFault_of_afterDollar (h : afterDollar i cs = .error e) : LexFault i ('$' :: cs) e := by
  simp only [afterDollar] at h
  split at h
  · next d hd =>
    cases h
    have hhead : (cs.dropWhile Name.isChar).head? = some d := (Option.filter_eq_some_iff.1 hd).1
    have hget : cs[(cs.takeWhile Name.isChar).length]? = some d := by
      have hsplit := List.takeWhile_append_dropWhile (p := Name.isChar) (l := cs)
      rw [← hsplit, List.getElem?_append_right (by simp)]
      simpa [List.head?_eq_getElem?] using hhead
    rw [Nat.add_assoc]
    exact .nameChar (by rwa [Nat.add_comm, List.getElem?_cons_succ])
  · split at h
    · cases h; exact .emptyName rfl
    · cases h

theorem lexFault_of_afterQuote (hq : c = '\'' ∨ c = '"') (h : afterQuote i c cs = .error e) :
    LexFault i (c :: cs) e := by
  simp only [afterQuote] at h
  split at h
  · next hb => cases h; exact .unterminated hq rfl (Literal.escaped_of_body_eq_none hb)
  · cases h

theorem lexFault_of_lexeme (h : lexeme i c cs = .error e) : LexFault i (c :: cs) e := by
  unfold lexeme at h
  split_ifs at h with h₁ h₂ h₃ h₄ h₅ h₆ h₇ h₈ h₉
  · subst h₃; exact lexFault_of_afterBang h
  · exact lexFault_of_second h
  · exact lexFault_of_second h
  · exact lexFault_of_second h
  · subst h₈; exact lexFault_of_afterDollar h
  · exact lexFault_of_afterQuote h₉ h
  · cases h; exact .character (k := 0) _ rfl

theorem lexFault_of_scan (h : (Scan.run i cs).fault = some e) :
    ∃ done rest, cs = done ++ rest ∧ LexFault (i + done.length) rest e := by
  obtain ⟨j, rest, hp, -, hfault⟩ := Scan.placed i cs
  obtain ⟨c, cs', rfl, he⟩ := hfault e h
  obtain ⟨done, rfl, rfl⟩ := hp.exists_append
  exact ⟨done, c :: cs', rfl, lexFault_of_lexeme he⟩

end Lexeme

/-! ### Closing scopes -/

/-- A fault of an open scope: its operator has no right operand, or the scope as a whole is a right
operand of the wrong shape. -/
inductive OpenFault (scopes : List Scope) : Fault.Located → Prop
  | unfinished {s : Scope} {p : Pending} (hs : s ∈ scopes) (hp : s.pending = some p)
      (hop : p.op ≠ .not) : OpenFault scopes ⟨p.index, .noRightOperand p.op⟩
  | misshapen {s : Scope} (op : Operator) (hs : s ∈ scopes) (hk : s.kind ≠ .root) :
      OpenFault scopes ⟨s.index, .invalidOperand op .right⟩

namespace OpenFault

variable {scopes : List Scope} {s s₀ : Scope}

theorem unfinished_of_continues {p : Pending} (hs₀ : s₀ ∈ scopes) (h : s.Continues s₀)
    (hp : s.pending = some p) (hop : p.op ≠ .not) :
    OpenFault scopes ⟨p.index, .noRightOperand p.op⟩ := by
  rcases h.pending with hnone | hsame
  · rw [hnone] at hp; cases hp
  · exact .unfinished hs₀ (hsame ▸ hp) hop

theorem misshapen_of_continues (op : Operator) (hs₀ : s₀ ∈ scopes) (h : s.Continues s₀)
    (hk : s.kind ≠ .root) : OpenFault scopes ⟨s.index, .invalidOperand op .right⟩ := by
  rw [h.index]
  exact .misshapen op hs₀ (h.kind ▸ hk)

theorem of_forall_continues {scopes' : List Scope} {e : Fault.Located} (h : OpenFault scopes' e)
    (hs : ∀ s ∈ scopes', ∃ s₀ ∈ scopes, s.Continues s₀) : OpenFault scopes e := by
  cases h with
  | unfinished hmem hp hop =>
    obtain ⟨s₀, hs₀, hcont⟩ := hs _ hmem
    exact .unfinished_of_continues hs₀ hcont hp hop
  | misshapen op hmem hk =>
    obtain ⟨s₀, hs₀, hcont⟩ := hs _ hmem
    exact .misshapen_of_continues op hs₀ hcont hk

end OpenFault

namespace Scope

variable {s outer inner : Scope} {p : Pending} {e : Expr} {i : Nat} {ls ls' : List Lexeme}
  {err : Fault.Located}

theorem Holds.resolve_error (h : s.Holds ls) (hp : s.pending = some p)
    (hr : s.resolve p e i = .error err) : err = ⟨i, .invalidOperand p.op .right⟩ := by
  cases h with
  | empty _ => cases hp
  | tree _ => cases hp
  | comparing _ _ _ =>
    cases hp
    simp only [Scope.resolve] at hr
    split at hr
    · cases hr
    · cases hr; rfl
  | joining _ _ =>
    cases hp
    simp only [Scope.resolve] at hr
    split at hr
    · cases hr; rfl
    · cases hr
  | bang => cases hp; cases hr

theorem Holds.kind_of_not (h : s.Holds ls) (hp : s.pending = some p) (hop : p.op = .not) :
    s.kind = .negation := by
  cases h with
  | empty _ => cases hp
  | tree _ => cases hp
  | comparing _ _ _ => cases hp; cases hop
  | joining _ _ => cases hp; cases hop
  | bang => rfl

theorem Holds.absorb_error (ho : outer.Holds ls) (hi : inner.Holds ls')
    (hk : ¬ inner.kind.IsBracket) (hw : outer.Awaits inner.kind)
    (h : outer.absorb inner = .error err) :
    (∃ q, inner.pending = some q ∧ err = ⟨q.index, .noRightOperand q.op⟩) ∨
      ∃ op, err = ⟨inner.index, .invalidOperand op .right⟩ := by
  cases hi with
  | empty hb => exact absurd hb hk
  | comparing _ _ _ => cases h; exact .inl ⟨_, rfl, rfl⟩
  | joining _ _ => cases h; exact .inl ⟨_, rfl, rfl⟩
  | bang => cases h; exact .inl ⟨_, rfl, rfl⟩
  | @tree k j ls' e ha =>
    refine .inr ?_
    match hp : outer.pending, hn : outer.node with
    | some q, _ =>
      simp only [Scope.absorb, hp] at h
      exact ⟨q.op, ho.resolve_error hp h⟩
    | none, none => simp [Scope.absorb, hp, hn] at h
    | none, some _ =>
      -- such a scope waits for nothing
      cases k with
      | root => exact absurd (.inl rfl) hk
      | group => exact absurd (.inr rfl) hk
      | negation => rcases hw.2 with hw | hw <;> simp_all
      | operand => obtain ⟨op, j, hw⟩ := hw; rw [hp] at hw; cases hw

end Scope

namespace Scopes

variable {s top : Scope} {below below' : List Scope} {ls : List Lexeme} {e : Fault.Located}

theorem closeWhile_error {p : Scope → Bool} (h : Scopes (top :: below) ls)
    (hp : ∀ s, p s = true → s.kind ∈ (top :: below).map (·.kind) → s.kind ≠ .group)
    (hb : ∀ s, p s = true → s.pending ≠ none → ls.getLast? ≠ some .bang)
    (hc : Scope.closeWhile p top below = .error e) : OpenFault (top :: below) e := by
  -- on the scopes below: either the innermost one cannot be closed, or the fault is further out
  induction below generalizing top with
  | nil => cases hc
  | cons outer below ih =>
    rw [Scope.closeWhile] at hc
    split at hc
    · next htop =>
      have hg := hp top htop (by simp)
      have hk : ¬ top.kind.IsBracket := fun hk => hk.elim h.kind_ne_root hg
      rcases bind_eq_error.1 hc with hc | ⟨s, hs, hc⟩
      · obtain ⟨ls₀, own, howner, hown, hw⟩ : ∃ ls₀ own, outer.Holds ls₀ ∧ top.Holds own ∧
            outer.Awaits top.kind := by
          cases h with
          | cons h hw ht =>
            obtain ⟨-, ls₀, -, ho, -⟩ := h.top_eq
            exact ⟨ls₀, _, ho, ht, hw⟩
        rcases howner.absorb_error hown hk hw hc with ⟨q, hq, rfl⟩ | ⟨op, rfl⟩
        · refine .unfinished (by simp) hq fun hnot => ?_
          have hneg := hown.kind_of_not hq hnot
          exact hb top htop (by simp [hq]) (h.getLast?_of_bang hneg (.inr (by simp [hq])))
        · exact .misshapen op List.mem_cons_self h.kind_ne_root
      · obtain ⟨h', hkind⟩ := h.absorb hg hs
        have hfault := ih h' (fun s hs hm => hp s hs (by
          rw [List.map_cons, hkind] at hm; exact List.mem_cons_of_mem _ hm)) hc
        refine hfault.of_forall_continues (List.forall_mem_cons.2 ⟨?_, fun s hs => ?_⟩)
        · exact ⟨outer, by simp, Scope.continues_absorb hs⟩
        · exact ⟨s, by simp [hs], .refl s⟩
    · cases hc

end Scopes

/-! ### The moves of the machine -/

/-- The first character of a lexeme. -/
def Lexeme.initial : Lexeme → Char
  | opening => '('
  | closing => ')'
  | bang => '!'
  | sign .equal => '='
  | sign .notEqual => '!'
  | sign .and => '&'
  | sign .or => '|'
  | sign .xor => '^'
  | reference _ => '$'
  | literal q _ => q

/-- What is wrong when the machine does not take token `t` in state `st`. -/
inductive StepFault (st : State) (t : Token) : Fault.Located → Prop
  | unexpected : StepFault st t ⟨t.start, .unexpected (some t.lexeme.initial) none⟩
  | unmatched (ht : t.lexeme = .closing) (hg : st.groups = 0) :
      StepFault st t ⟨t.start, .unmatched ')'⟩
  | sign {s : Sign} {op : Operator} {f : Fault} (ht : t.lexeme = .sign s)
      (hop : op.symbol = (State.nominal s).symbol)
      (hf : f = .doubleOperator op ∨ f = .noLeftOperand (some op) ∨ f = .invalidOperand op .left) :
      StepFault st t ⟨t.start, f⟩
  | scope {e : Fault.Located} (h : OpenFault st.scopes e) : StepFault st t e

/-- What is wrong when the machine cannot end in state `st`, after the lexemes `ls`. -/
inductive FinishFault (st : State) (ls : List Lexeme) : Fault.Located → Prop
  | unclosed {g : Scope} (hg : st.scopes.find? (·.kind == .group) = some g) :
      FinishFault st ls ⟨g.index, .unmatched '('⟩
  | scope {e : Fault.Located} (h : OpenFault st.scopes e) : FinishFault st ls e
  | empty (h : ls = []) : FinishFault st ls ⟨0, .noLeftOperand none⟩

namespace State

namespace Reads

variable {st st' : State} {ls : List Lexeme} {e : Fault.Located} {t : Token} {i : Nat}

theorem collapse_error (h : st.Reads ls) (hc : st.closeWhile Scope.isComplete = .error e) :
    OpenFault st.scopes e := by
  rcases bind_eq_error.1 hc with hc | ⟨_, -, hc⟩
  · refine h.scopes.closeWhile_error (fun s hs _ hk => ?_) (fun s hs hp => ?_) hc
    · simp [Scope.isComplete, Scope.isImplicit, hk] at hs
    · simp [Scope.isComplete, hp] at hs
  · cases hc

theorem expectOperand_error (h : st.Reads ls)
    (he : st.expectOperand t.lexeme.initial t.start = .error e) : StepFault st t e := by
  rcases bind_eq_error.1 he with he | ⟨st₁, -, he⟩
  · exact .scope (h.collapse_error he)
  · dsimp only at he
    split at he
    · cases he; exact .unexpected
    · cases he

theorem arrive_leaf_error {l : Leaf} {c : Char} (h : st.Reads ls)
    (ha : st.arrive (.leaf l) c i = .error e) : e = ⟨i, .unexpected (some c) none⟩ := by
  obtain ⟨-, own, -, htop, -⟩ := h.scopes.top_eq
  obtain ⟨top, below, groups⟩ := st
  cases htop with
  | empty _ => cases ha
  | tree _ => cases ha; rfl
  | comparing _ _ _ =>
    simp [State.arrive, Scope.resolve, Expr.isLeaf, bind, Except.bind, pure, Except.pure] at ha
  | joining _ _ => cases ha
  | bang => cases ha

theorem arrive_group_error {outer : Scope} {below : List Scope} {groups : Nat} {node : Expr}
    (h : State.Reads ⟨outer, below, groups⟩ ls) (hw : outer.Awaits .group)
    (ha : State.arrive ⟨outer, below, groups⟩ node '(' i = .error e) :
    ∃ op, e = ⟨i, .invalidOperand op .right⟩ := by
  obtain ⟨-, own, -, htop, -⟩ := h.scopes.top_eq
  unfold State.arrive at ha
  split at ha
  · next hp hn => rcases hw with hw | hw <;> simp_all
  · cases ha
  · next p hp =>
    split at ha
    · cases ha
    · rcases bind_eq_error.1 ha with ha | ⟨_, -, ha⟩
      · exact ⟨p.op, htop.resolve_error hp ha⟩
      · cases ha

theorem closeGroup_error (h : st.Reads ls) (hbang : ls.getLast? ≠ some .bang)
    (ht : t.lexeme = .closing) (hc : st.closeGroup t.start = .error e) : StepFault st t e := by
  have hgroup : ∀ s : Scope, s.isImplicit = true → s.kind ∈ st.scopes.map (·.kind) →
      s.kind ≠ .group := fun s hs _ hk => by simp [Scope.isImplicit, hk] at hs
  rcases bind_eq_error.1 hc with hc | ⟨⟨top, below, groups⟩, hclose, hc⟩
  · rcases bind_eq_error.1 hc with hc | ⟨_, -, hc⟩
    · exact .scope (h.scopes.closeWhile_error hgroup (fun _ _ _ => hbang) hc)
    · cases hc
  · obtain ⟨hr, hgroups, hstop⟩ := h.closeWhile hgroup hclose
    obtain ⟨s₀, hs₀, hcont⟩ := exists_continued hclose
    cases groups with
    | zero => cases hc; exact .unmatched ht hgroups.symm
    | succ groups =>
      cases below with
      | nil =>
        -- the root alone holds no group
        have hcount : groups + 1 = List.countP (·.kind == .group) [top] := hr.groups
        have hroot : top.kind = .root := hr.scopes.kind_eq_root
        simp [hroot] at hcount
      | cons outer below =>
        obtain ⟨ls₀, own, rfl, htop, hk, hw, hout⟩ := hr.group_eq (hstop.resolve_left (by simp))
        cases htop with
        | empty _ =>
          cases hc
          have hfault : StepFault st t _ := .unexpected
          rwa [ht] at hfault
        | comparing _ _ _ =>
          cases hc
          exact .scope (.unfinished_of_continues hs₀ hcont rfl (by simp))
        | joining _ _ =>
          cases hc
          exact .scope (.unfinished_of_continues hs₀ hcont rfl (by simp))
        | bang => cases hk
        | tree _ =>
          obtain ⟨op, rfl⟩ := hout.arrive_group_error hw hc
          exact .scope (.misshapen_of_continues op hs₀ hcont (hk ▸ by simp))

theorem operate_error {s : Sign} (h : st.Reads ls) (ht : t.lexeme = .sign s)
    (ho : st.operate s t.start = .error e) : StepFault st t e := by
  rcases bind_eq_error.1 ho with ho | ⟨st₁, -, ho⟩
  · exact .scope (h.collapse_error ho)
  · dsimp only at ho
    split at ho
    · cases ho; exact .sign ht rfl (.inl rfl)
    · cases ho; exact .sign ht rfl (.inr (.inl rfl))
    · next left hp hn =>
      split at ho
      · next op hop hl =>
        cases ho
        exact .sign ht (symbol_operatorOf s left) (.inr (.inr rfl))
      · cases ho

theorem step_error (h : st.Reads ls) (hbang : ls.getLast? = some .bang → t.lexeme = .opening)
    (hs : st.step t = .error e) : StepFault st t e := by
  have hleaf : ∀ {l : Leaf}, st.arrive (.leaf l) t.lexeme.initial t.start = .error e →
      StepFault st t e := fun ha => by
    rw [h.arrive_leaf_error ha]
    exact .unexpected
  unfold State.step at hs
  split at hs
  · next ht =>
    rcases bind_eq_error.1 hs with he | ⟨_, -, hs⟩
    · exact h.expectOperand_error (by rw [ht]; exact he)
    · cases hs
  · next ht => exact h.closeGroup_error (fun hb => by simp [hbang hb] at ht) ht hs
  · next ht =>
    rcases bind_eq_error.1 hs with he | ⟨_, -, hs⟩
    · exact h.expectOperand_error (by rw [ht]; exact he)
    · cases hs
  · next ht => exact h.operate_error ht hs
  · next name ht => exact hleaf (by rw [ht]; exact hs)
  · next q text ht => exact hleaf (by rw [ht]; exact hs)

theorem finish_error (h : st.Reads ls) (hbang : ls.getLast? ≠ some .bang)
    (hf : st.finish = .error e) : FinishFault st ls e := by
  by_cases hg : st.groups = 0
  · have hnone : ∀ s : Scope, true = true → s.kind ∈ st.scopes.map (·.kind) → s.kind ≠ .group := by
      have hcount := h.groups
      rw [hg, eq_comm, List.countP_eq_zero] at hcount
      intro s _ hk
      obtain ⟨s', hs', hk'⟩ := List.mem_map.1 hk
      rw [← hk']
      simpa using hcount s' hs'
    rw [State.finish, if_neg (by simp [hg])] at hf
    rcases bind_eq_error.1 hf with hf | ⟨⟨top, below, groups⟩, hclose, hf⟩
    · rcases bind_eq_error.1 hf with hf | ⟨_, -, hf⟩
      · exact .scope (h.scopes.closeWhile_error hnone (fun _ _ _ => hbang) hf)
      · cases hf
    · obtain ⟨hr, -, hstop⟩ := h.closeWhile hnone hclose
      obtain rfl : below = [] := hstop.resolve_right (by simp)
      obtain ⟨s₀, hs₀, hcont⟩ := exists_continued hclose
      obtain ⟨hs, -⟩ := hr
      cases hs with
      | root hk ht =>
        cases ht with
        | empty _ => cases hf; exact .empty rfl
        | tree _ => cases hf
        | comparing _ _ _ =>
          cases hf
          exact .scope (.unfinished_of_continues hs₀ hcont rfl (by simp))
        | joining _ _ =>
          cases hf
          exact .scope (.unfinished_of_continues hs₀ hcont rfl (by simp))
        | bang => cases hk
  · rw [State.finish, if_pos hg] at hf
    split at hf
    · next g hfind => cases hf; exact .unclosed hfind
    · next hfind =>
      -- the counter is the number of groups
      refine absurd ?_ hg
      rw [h.groups, List.countP_eq_zero]
      exact List.find?_eq_none.1 hfind

end Reads

end State

/-! ### Whole texts -/

/-- The three ways in which the reading of `text` breaks off. -/
inductive Refused (text : String) : Fault.Located → Prop
  | scan {e : Fault.Located} (h : (Scan.run 0 text.toList).fault = some e) : Refused text e
  | step {before after : List Token} {t : Token} {st : State} {e : Fault.Located}
      (hr : Reached text before (t :: after) st) (h : StepFault st t e) : Refused text e
  | finish {before : List Token} {st : State} {e : Fault.Located} (hr : Reached text before [] st)
      (hscan : (Scan.run 0 text.toList).fault = none)
      (h : FinishFault st (before.map (·.lexeme)) e) : Refused text e

variable {text : String} {err : SyntaxError} {e : Expr}

theorem refused_of_parse (h : parse text = .error err) :
    err.text = text ∧ Refused text ⟨err.index, err.fault⟩ := by
  obtain ⟨e, htree, rfl⟩ := mapError_eq_error.1 h
  refine ⟨rfl, ?_⟩
  rcases bind_eq_error.1 htree with h | ⟨st, hrun, h⟩
  · obtain ⟨before, t, after, st, htokens, hrun, hs⟩ := exists_step_of_foldlM_error h
    have hr : Reached text before (t :: after) st := ⟨htokens, hrun⟩
    have hbang : (before.map (·.lexeme)).getLast? = some .bang → t.lexeme = .opening := fun hb => by
      simpa using hr.opening_of_bang hb
    exact .step hr (hr.reads.step_error hbang hs)
  · have hr : Reached text (Scan.run 0 text.toList).tokens [] st := ⟨by simp, hrun⟩
    split at h
    · next hfault => cases h; exact .scan hfault
    · next hfault =>
      have hbang : ((Scan.run 0 text.toList).tokens.map (·.lexeme)).getLast? ≠ some .bang :=
        fun hb => by simpa using hr.opening_of_bang hb
      exact .finish hr hfault (hr.reads.finish_error hbang h)

theorem reached_of_parse (h : parse text = .ok e) :
    ∃ st, Reached text (Scan.run 0 text.toList).tokens [] st ∧
      (Scan.run 0 text.toList).fault = none ∧ st.finish = .ok e := by
  obtain ⟨st, hrun, h⟩ := bind_eq_ok.1 (mapError_eq_ok.1 h)
  split at h
  · cases h
  · next hfault => exact ⟨st, ⟨by simp, hrun⟩, hfault, h⟩

end Scaffold.Stack
