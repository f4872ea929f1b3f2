import Scaffold.Proofs.Stack.Rejection

/-!
# The discipline of the open scopes

`State.Disciplined` says how the scopes lie on each other in every state that a reading comes
through, without a word about the lexemes that were read: one root at the bottom, an operand scope
only on a connective that waits, a `!` only below a group. Two adjacent scopes are related by
`Scope.Awaits`, and what a single scope can look like is `Scope.Holds`; each field below is read off
these two. The faults that no text has follow, since `Refused` does not list them.
-/

namespace Scaffold.Stack

/-! ### Single scopes -/

namespace Scope

variable {s outer : Scope} {own : List Lexeme} {p : Pending}

theorem Holds.of_operand (h : s.Holds own) (hk : s.kind = .operand) :
    s.node ≠ none ∧ ∀ op i, s.pending ≠ some ⟨.connective op, i⟩ := by
  cases h with
  | empty hb => rcases hb with rfl | rfl <;> cases hk
  | tree _ => simp
  | comparing _ _ _ => simp
  | joining hb _ => rcases hb with rfl | rfl <;> cases hk
  | bang => cases hk

theorem Holds.isBracket_of_connective {op : Connective} {i : Nat} (h : s.Holds own)
    (hp : s.pending = some ⟨.connective op, i⟩) : s.kind.IsBracket := by
  cases h with
  | empty hb => exact hb
  | tree _ => cases hp
  | comparing _ _ _ => cases hp
  | joining hb _ => exact hb
  | bang => cases hp

theorem Awaits.waits {k : Kind} (h : outer.Awaits k) :
    outer.node = none ∨ outer.pending ≠ none := by
  cases k with
  | root => exact h.elim
  | group => exact h
  | negation => exact h.2
  | operand =>
    obtain ⟨op, i, hp⟩ := h
    exact .inr (by simp [hp])

theorem Holds.waits_empty (h : s.Holds own) (hw : s.node = none ∨ s.pending ≠ none) :
    s.pending ≠ none ∨ s.kind.IsBracket ∧ s.node = none := by
  cases h with
  | empty hb => exact .inr ⟨hb, rfl⟩
  | tree _ => simp at hw
  | comparing _ _ _ => exact .inl (by simp)
  | joining _ _ => exact .inl (by simp)
  | bang => exact .inl (by simp)

/-- What the operator `p` of `s` makes of a right operand: a node whose constructor takes the
operator, unless the operand is refused for its shape. -/
def Builds (s : Scope) (p : Pending) (operand : Expr) (i : Nat) : Prop :=
  s.resolve p operand i = .error ⟨i, .invalidOperand p.op .right⟩ ∨
    ∃ node, s.resolve p operand i = .ok { s with node := some node, pending := none } ∧
      (p.op = .not ∧ node = .not operand ∨
        ∃ left, s.node = some left ∧
          (Expr.comparison? p.op left operand = .ok node ∨
            Expr.condition? p.op left operand = .ok node))

theorem Holds.builds (h : s.Holds own) (hp : s.pending = some p) (operand : Expr) (i : Nat) :
    s.Builds p operand i := by
  cases h with
  | empty _ => cases hp
  | tree _ => cases hp
  | @comparing k j m ls left sign op _ _ _ =>
    cases hp
    cases hl : operand.isLeaf with
    | true => exact .inr ⟨_, by simp [Scope.resolve, hl], .inr ⟨left, rfl, .inl rfl⟩⟩
    | false => exact .inl (by simp [Scope.resolve, hl])
  | @joining k j m ls left sign _ _ =>
    cases hp
    cases hl : operand.isLeaf with
    | true => exact .inl (by simp [Scope.resolve, hl])
    | false => exact .inr ⟨_, by simp [Scope.resolve, hl], .inr ⟨left, rfl, .inr rfl⟩⟩
  | bang => cases hp; exact .inr ⟨_, rfl, .inl ⟨rfl, rfl⟩⟩

end Scope

/-! ### Scopes on each other -/

namespace Scopes

variable {s inner outer : Scope} {scopes above below run : List Scope} {ls : List Lexeme}

theorem exists_holds (h : Scopes scopes ls) (hs : s ∈ scopes) : ∃ own, s.Holds own := by
  induction h with
  | root _ h =>
    obtain rfl := List.mem_singleton.1 hs
    exact ⟨_, h⟩
  | cons _ _ h ih =>
    rcases List.mem_cons.1 hs with rfl | hs
    · exact ⟨_, h⟩
    · exact ih hs

theorem isChain_awaits (h : Scopes scopes ls) :
    scopes.IsChain fun inner outer => outer.Awaits inner.kind := by
  induction h with
  | root _ _ => exact .singleton _
  | cons _ hw _ ih => exact List.isChain_cons_cons.2 ⟨hw, ih⟩

theorem awaits (h : Scopes (above ++ inner :: outer :: below) ls) : outer.Awaits inner.kind :=
  (List.isChain_cons_cons.1 (List.isChain_append.1 h.isChain_awaits).2.1).1

theorem exists_root (h : Scopes scopes ls) :
    ∃ above bottom, scopes = above ++ [bottom] ∧ bottom.kind = .root ∧
      ∀ s ∈ above, s.kind ≠ .root := by
  induction h with
  | @root s _ hk _ => exact ⟨[], s, rfl, hk, by simp⟩
  | @cons s outer below _ _ _ hw _ ih =>
    obtain ⟨above, bottom, hsplit, hbottom, habove⟩ := ih
    refine ⟨s :: above, bottom, by rw [hsplit]; rfl, hbottom, ?_⟩
    refine List.forall_mem_cons.2 ⟨fun hk => ?_, habove⟩
    rw [hk] at hw
    exact hw

theorem exists_outer (h : Scopes (above ++ s :: below) ls) (hk : s.kind ≠ .root) :
    ∃ outer ∈ below.head?, outer.Awaits s.kind := by
  cases below with
  | nil =>
    obtain ⟨above', bottom, hsplit, hbottom, -⟩ := h.exists_root
    obtain ⟨-, rfl⟩ := List.append_singleton_inj.1 hsplit
    exact absurd hbottom hk
  | cons outer below => exact ⟨outer, rfl, h.awaits⟩

/-- Between brackets lie at most a negation and, below it, an operand scope. -/
theorem implicit_run (h : Scopes scopes ls) (hrun : run <:+: scopes)
    (himp : ∀ s ∈ run, ¬ s.kind.IsBracket) :
    run.countP (·.kind == .operand) ≤ 1 ∧ run.countP (·.kind == .negation) ≤ 1 := by
  have hchain := h.isChain_awaits.infix hrun
  have hholds : ∀ s ∈ run, ∃ own, s.Holds own := fun s hs => h.exists_holds (hrun.subset hs)
  -- the scope below an operand scope is a bracket
  have hoperand : ∀ s ∈ run, ∀ outer ∈ run, outer.Awaits s.kind → s.kind = .negation := by
    intro s hs outer houter hw
    cases hk : s.kind with
    | root => exact absurd (.inl hk) (himp s hs)
    | group => exact absurd (.inr hk) (himp s hs)
    | negation => rfl
    | operand =>
      rw [hk] at hw
      obtain ⟨op, i, hp⟩ := hw
      obtain ⟨own, ho⟩ := hholds outer houter
      exact absurd (ho.isBracket_of_connective hp) (himp outer houter)
  match run with
  | [] => simp
  | [s] => constructor <;> exact List.countP_le_length
  | [s, t] =>
    have hw := (List.isChain_cons_cons.1 hchain).1
    have hs := hoperand s (by simp) t (by simp) hw
    rw [hs] at hw
    have ht : t.kind ≠ .negation := hw.1
    have hone : ∀ q : Scope → Bool, List.countP q [t] ≤ 1 := fun q => List.countP_le_length
    refine ⟨?_, ?_⟩
    · rw [List.countP_cons_of_neg (by simp [hs])]
      exact hone _
    · rw [List.countP_cons_of_pos (by simp [hs]), List.countP_cons_of_neg (by simp [ht])]
      exact Nat.le_refl 1
  | s :: t :: u :: run =>
    obtain ⟨hw, hchain⟩ := List.isChain_cons_cons.1 hchain
    have hs := hoperand s (by simp) t (by simp) hw
    have ht := hoperand t (by simp) u (by simp) (List.isChain_cons_cons.1 hchain).1
    rw [hs] at hw
    exact absurd ht hw.1

/-- The most scopes that can be open above the innermost bracket, that bracket included. -/
def room : Scope.Kind → Nat
  | .root | .group => 1
  | .operand => 2
  | .negation => 3

theorem length_le (h : Scopes (s :: below) ls) :
    (s :: below).length ≤ 3 * (s :: below).countP (·.kind == .group) + room s.kind := by
  -- on the scopes below: between two brackets lie an operand and a negation at most
  induction below generalizing s ls with
  | nil => simp [h.kind_eq_root, room]
  | cons outer below ih =>
    obtain ⟨own, hb, hw⟩ : ∃ own, Scopes (outer :: below) own ∧ outer.Awaits s.kind := by
      cases h with
      | cons hb hw _ => exact ⟨_, hb, hw⟩
    have hle := ih hb
    rw [List.length_cons, List.countP_cons]
    cases hk : s.kind with
    | root => rw [hk] at hw; exact hw.elim
    | group =>
      have : room outer.kind ≤ 3 := by cases outer.kind <;> decide
      simp only [beq_self_eq_true, if_true, room]
      omega
    | operand =>
      rw [hk] at hw
      obtain ⟨op, i, hp⟩ := hw
      obtain ⟨own', ho⟩ := hb.exists_holds List.mem_cons_self
      have : room outer.kind = 1 := by
        rcases ho.isBracket_of_connective hp with hk | hk <;> rw [hk] <;> rfl
      simp only [room]
      omega
    | negation =>
      rw [hk] at hw
      have : room outer.kind ≤ 2 := by
        have := hw.1
        cases hok : outer.kind <;> simp_all [room]
      simp only [room]
      omega

end Scopes

/-! ### The discipline -/

/-- How the scopes of a state lie on each other, after the tokens `before` and with `after` still to
come. -/
structure State.Disciplined (st : State) (before after : List Token) : Prop where
  /-- The bottom scope is the only root. -/
  root : ∃ above bottom, st.scopes = above ++ [bottom] ∧ bottom.kind = .root ∧
    ∀ s ∈ above, s.kind ≠ .root
  /-- The counter is the number of groups. -/
  groups : st.groups = st.scopes.countP (·.kind == .group)
  /-- A scope below the innermost one has an operator, or is a bracket that has read nothing. -/
  waiting : ∀ s ∈ st.below, s.pending ≠ none ∨ s.kind.IsBracket ∧ s.node = none
  /-- An operand scope lies on a connective that waits; it holds a tree and no connective. -/
  operand : ∀ above s below, st.scopes = above ++ s :: below → s.kind = .operand →
    s.node ≠ none ∧ (∀ op i, s.pending ≠ some ⟨.connective op, i⟩) ∧
      ∃ outer ∈ below.head?, ∃ op i, outer.pending = some ⟨.connective op, i⟩
  /-- A negation that waits lies below a group, or its `(` is the next character. -/
  negation : ∀ above s below, st.scopes = above ++ s :: below → s.kind = .negation →
    s.pending ≠ none → (∃ inner ∈ above.getLast?, inner.kind = .group) ∨
      above = [] ∧ ∃ i, before.getLast? = some ⟨i, .bang⟩ ∧ after.head? = some ⟨i + 1, .opening⟩
  /-- Between brackets lie at most one operand scope and one negation. -/
  between : ∀ run, run <:+: st.scopes → (∀ s ∈ run, ¬ s.kind.IsBracket) →
    run.countP (·.kind == .operand) ≤ 1 ∧ run.countP (·.kind == .negation) ≤ 1
  height : st.scopes.length ≤ 3 * (st.groups + 1)

namespace Reached

variable {text : String} {before after : List Token} {st : State}

theorem negation_cases {above below : List Scope} {s : Scope} (h : Reached text before after st)
    (hsplit : st.scopes = above ++ s :: below) (hk : s.kind = .negation) (hp : s.pending ≠ none) :
    (∃ inner ∈ above.getLast?, inner.kind = .group) ∨
      above = [] ∧
        ∃ i, before.getLast? = some ⟨i, .bang⟩ ∧ after.head? = some ⟨i + 1, .opening⟩ := by
  have hs := h.reads.scopes
  rw [hsplit] at hs
  rcases List.eq_nil_or_concat above with rfl | ⟨above, inner, rfl⟩
  · -- the innermost scope: its `!` is the last lexeme
    have hb := hs.getLast?_of_bang hk (.inr hp)
    rw [List.getLast?_map, Option.map_eq_some_iff] at hb
    obtain ⟨⟨i, l⟩, ht, hb⟩ := hb
    obtain rfl : l = .bang := hb
    exact .inr ⟨rfl, i, ht, h.head?_of_bang ht rfl⟩
  · -- the scope above it was opened by the parenthesis after the `!`
    refine .inl ⟨inner, by simp, ?_⟩
    obtain ⟨own, ho⟩ := hs.exists_holds (s := s) (by simp)
    obtain ⟨i, j, rfl, -⟩ := ho.eq_bang hk (.inr hp)
    rw [List.concat_eq_append, List.append_assoc] at hs
    have hw := hs.awaits
    cases hi : inner.kind with
    | root => rw [hi] at hw; exact hw.elim
    | group => rfl
    | negation => rw [hi] at hw; exact absurd rfl hw.1
    | operand =>
      rw [hi] at hw
      obtain ⟨op, m, hw⟩ := hw
      cases hw

theorem disciplined (h : Reached text before after st) : st.Disciplined before after := by
  have hs := h.reads.scopes
  refine ⟨hs.exists_root, h.reads.groups, fun s hmem => ?_, fun above s below hsplit hk => ?_,
    fun above s below hsplit hk hp => h.negation_cases hsplit hk hp,
    fun run hrun himp => hs.implicit_run hrun himp, ?_⟩
  · obtain ⟨own, ho⟩ := hs.exists_holds (List.mem_cons_of_mem _ hmem)
    obtain ⟨above, below, hsplit⟩ := List.append_of_mem hmem
    have hbelow : st.scopes = (st.top :: above) ++ s :: below := by rw [State.scopes, hsplit]; rfl
    rw [hbelow] at hs
    -- some scope lies directly on `s`
    rcases List.eq_nil_or_concat (st.top :: above) with hnil | ⟨above', inner, hconcat⟩
    · cases hnil
    · rw [hconcat, List.concat_eq_append, List.append_assoc] at hs
      exact ho.waits_empty hs.awaits.waits
  · rw [hsplit] at hs
    obtain ⟨own, ho⟩ := hs.exists_holds (s := s) (by simp)
    obtain ⟨hnode, hpending⟩ := ho.of_operand hk
    obtain ⟨outer, houter, hw⟩ := hs.exists_outer (by simp [hk])
    rw [hk] at hw
    exact ⟨hnode, hpending, outer, houter, hw⟩
  · have hle := hs.length_le
    have hroom : Scopes.room st.top.kind ≤ 3 := by cases st.top.kind <;> decide
    rw [h.reads.groups, State.scopes]
    omega

end Reached

/-! ### Faults that no text has -/

section Faults

variable {text : String} {e : Fault.Located} {i : Nat} {cs : List Char}

theorem eq_not_of_symbol {op : Operator} (h : op.symbol = "!") : op = .not := by
  cases op with
  | connective op => cases op <;> revert h <;> decide
  | comparison op => cases op <;> revert h <;> decide
  | not => rfl

theorem OpenFault.sound {scopes : List Scope} (h : OpenFault scopes e) :
    e.fault ≠ .invalidState ∧ e.fault ≠ .noRightOperand .not ∧ e.fault ≠ .noLeftOperand none := by
  cases h with
  | unfinished _ _ hop => simpa using hop
  | misshapen _ _ _ => simp

theorem Spelled.blank_of_nil (h : Spelled [] cs) : ∀ c ∈ cs, Text.isBlank c = true := by
  generalize hls : ([] : List Lexeme) = ls at h
  induction h with
  | nil => simp
  | blank hc _ ih => exact List.forall_mem_cons.2 ⟨hc, ih hls⟩
  | lexeme _ _ _ _ => cases hls

theorem Refused.sound (h : Refused text e) :
    e.fault ≠ .invalidState ∧ e.fault ≠ .noRightOperand .not ∧
      (e.fault = .noLeftOperand none → ∀ c ∈ text.toList, Text.isBlank c = true) := by
  cases h with
  | scan h =>
    obtain ⟨done, rest, -, h⟩ := lexFault_of_scan h
    cases h <;> simp
  | step _ h =>
    cases h with
    | unexpected => simp
    | unmatched _ _ => simp
    | sign _ _ hf => rcases hf with rfl | rfl | rfl <;> simp
    | scope h => exact ⟨h.sound.1, h.sound.2.1, fun hl => absurd hl h.sound.2.2⟩
  | @finish before _ _ hr hscan h =>
    cases h with
    | unclosed _ => simp
    | scope h => exact ⟨h.sound.1, h.sound.2.1, fun hl => absurd hl h.sound.2.2⟩
    | empty hls =>
      refine ⟨by simp, by simp, fun _ => ?_⟩
      have hsp := Scan.spelled hscan
      rw [Scan.lexemes, hr.tokens, List.append_nil, hls] at hsp
      exact hsp.blank_of_nil

theorem scan_of_blank (h : ∀ c ∈ cs, Text.isBlank c = true) : Scan.run i cs = ⟨[], none⟩ := by
  induction cs generalizing i with
  | nil => rw [Scan.run]
  | cons c cs ih =>
    rw [List.forall_mem_cons] at h
    rw [Scan.run_blank h.1, ih h.2]

theorem parse_of_blank (h : ∀ c ∈ text.toList, Text.isBlank c = true) :
    parse text = .error ⟨text, 0, .noLeftOperand none⟩ := by
  rw [parse, scan_of_blank h]
  rfl

end Faults

/-- In every state that a reading comes through the scopes are disciplined, an open group is found
as long as the counter is not zero, and every node that a waiting operator can make is one that its
constructor takes. So no text ends in an invalid state or misses the operand of a `!`, and only
blank texts have no operand at all. -/
theorem scopes_stay_disciplined (text : String) :
    (∀ before after st, Reached text before after st →
      st.Disciplined before after ∧
      (st.groups ≠ 0 → ∃ g, st.scopes.find? (·.kind == .group) = some g) ∧
      ∀ s ∈ st.scopes, ∀ p, s.pending = some p → ∀ operand i, s.Builds p operand i) ∧
    (∀ err, parse text = .error err →
      err.fault ≠ .invalidState ∧ ∀ op, err.fault = .noRightOperand op → op.symbol ≠ "!") ∧
    ((∃ err, parse text = .error err ∧ err.fault = .noLeftOperand none) ↔
      ∀ c ∈ text.toList, Text.isBlank c = true) := by
  refine ⟨fun before after st h => ⟨h.disciplined, fun hg => ?_, fun s hs p hp operand i => ?_⟩,
    fun err h => ?_, ?_, fun h => ⟨_, parse_of_blank h, rfl⟩⟩
  · rw [h.reads.groups] at hg
    obtain ⟨g, hmem, hk⟩ := List.countP_pos_iff.1 (Nat.pos_of_ne_zero hg)
    exact Option.isSome_iff_exists.1 (List.find?_isSome.2 ⟨g, hmem, hk⟩)
  · obtain ⟨own, ho⟩ := h.reads.scopes.exists_holds hs
    exact ho.builds hp operand i
  · obtain ⟨hstate, hright, -⟩ := (refused_of_parse h).2.sound
    refine ⟨hstate, fun op hop hsym => hright ?_⟩
    rw [← eq_not_of_symbol hsym]
    exact hop
  · rintro ⟨err, h, hfault⟩
    exact (refused_of_parse h).2.sound.2.2 hfault

/-- The deepest pile on one bracket, between a `!` and its parenthesis, and a blank text. -/
theorem disciplined_before_parenthesis :
    (∃ before after st, Reached "$a == 'x' && $b == !(" before after st ∧ st.scopes.length = 3 ∧
      st.groups = 0 ∧ st.Disciplined before after) ∧
    ∃ err, parse " \n" = .error err ∧ err.fault = .noLeftOperand none := by
  have hr : Reached "$a == 'x' && $b == !("
      [⟨0, .reference "a"⟩, ⟨3, .sign .equal⟩, ⟨6, .literal '\'' "x"⟩, ⟨10, .sign .and⟩,
        ⟨13, .reference "b"⟩, ⟨16, .sign .equal⟩, ⟨19, .bang⟩] [⟨20, .opening⟩]
      ⟨⟨.negation, 19, none, some ⟨.not, 19⟩⟩,
        [⟨.operand, 13, some (.leaf (.reference "b")), some ⟨.comparison .equal, 16⟩⟩,
          ⟨.root, 0, some (.comparison .equal (.leaf (.reference "a")) (.leaf (.literal "x"))),
            some ⟨.connective .and, 10⟩⟩], 0⟩ :=
    ⟨by decide +kernel, by decide +kernel⟩
  have hblank : " \n".toList.all Text.isBlank = true := by decide +kernel
  refine ⟨⟨_, _, _, hr, rfl, rfl, ((scopes_stay_disciplined _).1 _ _ _ hr).1⟩, ?_⟩
  exact (scopes_stay_disciplined " \n").2.2.2 (List.all_eq_true.1 hblank)

end Scaffold.Stack
