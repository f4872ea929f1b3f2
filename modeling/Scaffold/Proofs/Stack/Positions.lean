import Scaffold.Proofs.Stack.Rejection

/-!
# Errors point at what they name

A scope keeps two indices that may be reported much later: where it began, and where its operator
stands. `Scope.Anchored` says what the text has at these indices. No move invents an index: a scope
that stays open keeps its own, a new one takes that of the token, and a group that is closed into a
scope of its own hands its index on. So every open scope is anchored, in every state, and with the
tokens spelled at their own indices each way to refuse a text names what stands at its index.
-/

namespace Scaffold.Stack

/-- The characters with which an operand begins. -/
def IsOperandStart (c : Char) : Prop := c = '$' ∨ c = '\'' ∨ c = '"' ∨ c = '(' ∨ c = '!'

/-- The characters `cs` have, at index `i`, what the fault names. -/
def Points (cs : List Char) (i : Nat) : Fault → Prop
  | .unexpected (some c) _ | .unmatched c | .invalidNameChar c => cs[i]? = some c
  | .unexpected none _ => i = cs.length
  | .emptyName => cs[i]? = some '$'
  | .unterminated => ∃ q raw, (q = '\'' ∨ q = '"') ∧ cs.drop i = q :: raw ∧
      ∀ before after, raw = before ++ q :: after → before.getLast? = some '\\'
  | .noRightOperand op | .doubleOperator op | .noLeftOperand (some op) | .invalidOperand op .left =>
    op.symbol.toList <+: cs.drop i
  | .invalidOperand _ .right => ∃ c, cs[i]? = some c ∧ IsOperandStart c
  | .noLeftOperand none => i = 0
  | .unexpectedToken _ | .invalidState => False

/-! ### Tokens -/

theorem getElem?_of_prefix_drop {c : Char} {w cs : List Char} {i : Nat} (h : w <+: cs.drop i)
    (hc : w.head? = some c) : cs[i]? = some c := by
  obtain ⟨rest, h⟩ := h
  rw [← List.head?_drop, ← h, List.head?_append, hc]
  rfl

theorem Spells.head? {l : Lexeme} {w : List Char} (h : Spells l w) : w.head? = some l.initial := by
  cases h <;> rfl

theorem Spells.symbol {s : Sign} {w : List Char} (h : Spells (.sign s) w) :
    (State.nominal s).symbol.toList = w := by
  cases h <;> decide

theorem Spells.isOperandStart {l : Lexeme} {w : List Char} (h : Spells l w)
    (hb : l.begins = true) : IsOperandStart l.initial := by
  cases h with
  | opening | bang | reference _ => simp [IsOperandStart, Lexeme.initial]
  | literal hq _ => rcases hq with rfl | rfl <;> simp [IsOperandStart, Lexeme.initial]
  | closing | equal | notEqual | and | or | xor => cases hb

/-- The characters of the token `t` stand at its index. -/
def Token.Anchored (cs : List Char) (t : Token) : Prop :=
  ∃ w, Spells t.lexeme w ∧ w <+: cs.drop t.start

namespace Token.Anchored

variable {cs : List Char} {t : Token}

theorem of_mem (ht : t ∈ (Scan.run 0 cs).tokens) : t.Anchored cs := by
  obtain ⟨j, rest, hp, -, -⟩ := Scan.placed 0 cs
  obtain ⟨done, w, rest', hcs, hstart, hw⟩ := hp.exists_spells ht
  refine ⟨w, hw, rest', ?_⟩
  rw [hcs, hstart, Nat.zero_add, List.drop_left]

theorem initial (h : t.Anchored cs) : cs[t.start]? = some t.lexeme.initial := by
  obtain ⟨w, hw, hp⟩ := h
  exact getElem?_of_prefix_drop hp hw.head?

theorem operand (h : t.Anchored cs) (hb : t.lexeme.begins = true) :
    ∃ c, cs[t.start]? = some c ∧ IsOperandStart c := by
  have ⟨_, hw, _⟩ := h
  exact ⟨_, h.initial, hw.isOperandStart hb⟩

theorem symbol {s : Sign} (h : t.Anchored cs) (ht : t.lexeme = .sign s) :
    (State.nominal s).symbol.toList <+: cs.drop t.start := by
  obtain ⟨w, hw, hp⟩ := h
  rw [ht] at hw
  rwa [hw.symbol]

end Token.Anchored

/-! ### Scopes -/

/-- What stands at the indices that a scope keeps. -/
structure Scope.Anchored (cs : List Char) (s : Scope) : Prop where
  group : s.kind = .group → cs[s.index]? = some '('
  operand : s.kind ≠ .root → ∃ c, cs[s.index]? = some c ∧ IsOperandStart c
  pending : ∀ p, s.pending = some p → p.op.symbol.toList <+: cs.drop p.index

section Scopes

variable {cs : List Char} {s s₀ : Scope} {scopes scopes' : List Scope} {t : Token} {i : Nat}
  {e : Fault.Located}

theorem Scope.Continues.anchored (h : s.Continues s₀) (h₀ : s₀.Anchored cs) : s.Anchored cs := by
  refine ⟨?_, ?_, fun p hp => ?_⟩
  · rw [h.kind, h.index]; exact h₀.group
  · rw [h.kind, h.index]; exact h₀.operand
  · rcases h.pending with hnone | hsame
    · rw [hnone] at hp; cases hp
    · exact h₀.pending p (hsame ▸ hp)

theorem Shrinks.anchored (h : Shrinks scopes scopes') (h₀ : ∀ s ∈ scopes, s.Anchored cs) :
    ∀ s ∈ scopes', s.Anchored cs := by
  cases h with
  | intro hs _ =>
    simp only [List.forall_mem_append, List.forall_mem_cons] at h₀ ⊢
    exact ⟨hs.anchored h₀.2.1, h₀.2.2⟩

theorem Arrives.anchored (h : Arrives i scopes scopes')
    (hi : ∃ c, cs[i]? = some c ∧ IsOperandStart c) (h₀ : ∀ s ∈ scopes, s.Anchored cs) :
    ∀ s ∈ scopes', s.Anchored cs := by
  cases h with
  | taken h =>
    rw [List.forall_mem_cons] at h₀ ⊢
    exact ⟨h.anchored h₀.1, h₀.2⟩
  | held _ => exact List.forall_mem_cons.2 ⟨⟨nofun, fun _ => hi, nofun⟩, h₀⟩

theorem Effect.anchored (h : Effect t scopes scopes') (ht : t.Anchored cs)
    (h₀ : ∀ s ∈ scopes, s.Anchored cs) : ∀ s ∈ scopes', s.Anchored cs := by
  cases h with
  | openGroup hl h =>
    have hi := ht.initial
    rw [hl] at hi
    refine List.forall_mem_cons.2 ⟨⟨fun _ => hi, fun _ => ?_, nofun⟩, h.anchored h₀⟩
    exact ht.operand (by rw [hl]; rfl)
  | closeGroup _ h hg ha =>
    obtain ⟨hanchor, hrest⟩ := List.forall_mem_cons.1 (h.anchored h₀)
    exact ha.anchored (hanchor.operand (by simp [hg])) hrest
  | openNegation hl h =>
    refine List.forall_mem_cons.2 ⟨⟨nofun, fun _ => ht.operand (by rw [hl]; rfl), ?_⟩,
      h.anchored h₀⟩
    rintro p ⟨⟩
    obtain ⟨w, hw, hp⟩ := ht
    rw [hl] at hw
    cases hw
    have hbang : Operator.not.symbol.toList = ['!'] := by decide
    rwa [hbang]
  | operate hl h hop =>
    obtain ⟨hs, hrest⟩ := List.forall_mem_cons.1 (h.anchored h₀)
    refine List.forall_mem_cons.2 ⟨⟨hs.group, hs.operand, ?_⟩, hrest⟩
    rintro p ⟨⟩
    rw [hop]
    exact ht.symbol hl
  | operand hb _ ha => exact ha.anchored (ht.operand hb) h₀

theorem Reached.anchored {text : String} {before after : List Token} {st : State}
    (h : Reached text before after st) : ∀ s ∈ st.scopes, s.Anchored text.toList := by
  refine h.invariant (P := fun _ scopes => ∀ s ∈ scopes, s.Anchored text.toList) ?_ ?_
  · exact List.forall_mem_singleton.2 ⟨nofun, fun hk => absurd rfl hk, nofun⟩
  · intro done t scopes scopes' ht h₀ heffect
    exact heffect.anchored (.of_mem ht) h₀

/-! ### Faults -/

theorem OpenFault.points (h : OpenFault scopes e) (h₀ : ∀ s ∈ scopes, s.Anchored cs) :
    Points cs e.index e.fault := by
  cases h with
  | unfinished hs hp _ => exact (h₀ _ hs).pending _ hp
  | misshapen _ hs hk => exact (h₀ _ hs).operand hk

theorem StepFault.points {st : State} (h : StepFault st t e) (ht : t.Anchored cs)
    (h₀ : ∀ s ∈ st.scopes, s.Anchored cs) : Points cs e.index e.fault := by
  cases h with
  | unexpected => exact ht.initial
  | unmatched hl _ =>
    have hi := ht.initial
    rwa [hl] at hi
  | sign hl hop hf =>
    have hs := ht.symbol hl
    rw [← hop] at hs
    rcases hf with rfl | rfl | rfl <;> exact hs
  | scope h => exact h.points h₀

theorem FinishFault.points {st : State} {ls : List Lexeme} (h : FinishFault st ls e)
    (h₀ : ∀ s ∈ st.scopes, s.Anchored cs) : Points cs e.index e.fault := by
  cases h with
  | unclosed hg =>
    have hanchor := h₀ _ (List.mem_of_find?_eq_some hg)
    exact hanchor.group (by simpa using List.find?_some hg)
  | scope h => exact h.points h₀
  | empty _ => exact rfl

theorem LexFault.points {done rest : List Char} (h : LexFault done.length rest e) :
    Points (done ++ rest) e.index e.fault := by
  cases h with
  | character _ h => exact (List.getElem?_append_right (by simp)).trans (by simpa using h)
  | ending _ => exact List.length_append.symm
  | nameChar h => exact (List.getElem?_append_right (by simp)).trans (by simpa using h)
  | emptyName h =>
    refine (List.getElem?_append_right (Nat.le_refl _)).trans ?_
    rw [Nat.sub_self, ← List.head?_eq_getElem?, h]
  | unterminated hq hcs h => exact ⟨_, _, hq, by rw [List.drop_left, hcs], h⟩

end Scopes

theorem Refused.points {text : String} {e : Fault.Located} (h : Refused text e) :
    Points text.toList e.index e.fault := by
  cases h with
  | scan h =>
    obtain ⟨done, rest, htext, h⟩ := lexFault_of_scan h
    rw [Nat.zero_add] at h
    rw [htext]
    exact h.points
  | step hr h => exact h.points (.of_mem (by rw [hr.tokens]; simp)) hr.anchored
  | finish hr _ h => exact h.points hr.anchored

/-- What a fault names has at least one character, but for the end of the text and for an operand
that is missing altogether. -/
theorem Points.lt_length {cs : List Char} {i : Nat} {f : Fault} (h : Points cs i f)
    (hend : ∀ expected, f ≠ .unexpected none expected) (hleft : f ≠ .noLeftOperand none) :
    i < cs.length := by
  have hchar : ∀ {c : Char}, cs[i]? = some c → i < cs.length := fun h =>
    (List.getElem?_eq_some_iff.1 h).1
  -- an operator has a first character, and that is in the text
  have hsymbol : ∀ op : Operator, op.symbol.toList <+: cs.drop i → i < cs.length := fun op h => by
    have hne : op.symbol.toList ≠ [] := by
      cases op with
      | connective op => cases op <;> decide
      | comparison op => cases op <;> decide
      | not => decide
    obtain ⟨c, w, hw⟩ := List.exists_cons_of_ne_nil hne
    exact hchar (getElem?_of_prefix_drop h (by rw [hw]; rfl))
  match f with
  | .unexpected (some _) _ | .unmatched _ | .invalidNameChar _ | .emptyName => exact hchar h
  | .unexpected none expected => exact absurd rfl (hend expected)
  | .unterminated =>
    obtain ⟨q, raw, -, hdrop, -⟩ := h
    exact hchar (c := q) (by rw [← List.head?_drop, hdrop]; rfl)
  | .noRightOperand _ | .doubleOperator _ | .noLeftOperand (some _) | .invalidOperand _ .left =>
    exact hsymbol _ h
  | .invalidOperand _ .right =>
    obtain ⟨c, hc, -⟩ := h
    exact hchar hc
  | .noLeftOperand none => exact absurd rfl hleft

/-- Every error carries the text and points at what it names; its index is outside the text only
where the text ends too early, and for the empty text. -/
theorem error_points_at_cause (text : String) (err : SyntaxError) (h : parse text = .error err) :
    err.text = text ∧ Points text.toList err.index err.fault ∧
      (text.length ≤ err.index →
        (∃ expected, err.fault = .unexpected none expected) ∨ text = "") := by
  obtain ⟨htext, hr⟩ := refused_of_parse h
  have hp : Points text.toList err.index err.fault := hr.points
  refine ⟨htext, hp, fun hle => ?_⟩
  rw [← String.length_toList] at hle
  by_cases hleft : err.fault = .noLeftOperand none
  · rw [hleft] at hp
    have hzero : err.index = 0 := hp
    rw [hzero, Nat.le_zero, List.length_eq_zero_iff] at hle
    exact .inr (by simpa using hle)
  · by_contra hout
    rw [not_or, not_exists] at hout
    have := hp.lt_length hout.1 hleft
    omega

/-- A group that holds a value is refused after the text has ended, at its parenthesis. -/
theorem points_at_group_of_value :
    ∃ err, parse "$a == 'x' && ($b)" = .error err ∧
      err.index = 13 ∧ err.fault = .invalidOperand (.connective .and) .right ∧
      Points "$a == 'x' && ($b)".toList err.index err.fault := by
  have h : parse "$a == 'x' && ($b)" =
      .error ⟨"$a == 'x' && ($b)", 13, .invalidOperand (.connective .and) .right⟩ := by
    decide +kernel
  exact ⟨_, h, rfl, rfl, (error_points_at_cause _ _ h).2.1⟩

end Scaffold.Stack
