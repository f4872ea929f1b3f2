import Scaffold.Proofs.Stack.Rejection

/-!
# Reports about parentheses

The parentheses of a text are told from its characters alone (`parens`): those outside quoted
literals, with their indices. Which of them belong together is `Partners`, by the rows that are
`Balanced`. The machine knows none of this; it has a stack in which groups lie among other scopes.
`Open gs ps` ties the two together: after the parentheses `ps`, those at the indices `gs` are still
open, and each token keeps it (`Effect.isOpen`).
-/

namespace Scaffold.Stack

/-! ### The parentheses of a text -/

/-- Where a character stands: outside literals, or in one with quotes `q`, perhaps directly after a
backslash. -/
inductive Mode
  | plain
  | quoted (q : Char) (escaped : Bool)
deriving DecidableEq

def Mode.next : Mode → (c : Char) → Mode
  | plain, c => if c = '\'' ∨ c = '"' then quoted c false else plain
  | quoted q escaped, c => if c = q ∧ escaped = false then plain else quoted q (c == '\\')

/-- A parenthesis and its index. -/
abbrev Paren := Nat × Char

/-- The parentheses outside literals among the characters `cs`, which begin at index `i`. -/
def parens (i : Nat) (m : Mode) : (cs : List Char) → List Paren
  | [] => []
  | c :: cs =>
    if m = .plain ∧ (c = '(' ∨ c = ')') then (i, c) :: parens (i + 1) (m.next c) cs
    else parens (i + 1) (m.next c) cs

/-- The parenthesis that a token is, if it is one. -/
def Token.parens (t : Token) : List Paren :=
  match t.lexeme with
  | .opening => [(t.start, '(')]
  | .closing => [(t.start, ')')]
  | _ => []

/-- A character that is no parenthesis and opens no literal. -/
def IsPlain (c : Char) : Prop := c ≠ '(' ∧ c ≠ ')' ∧ c ≠ '\'' ∧ c ≠ '"'

section Parens

variable {i j : Nat} {m : Mode} {c q : Char} {w cs rest : List Char} {l : Lexeme} {ts : List Token}

theorem isPlain_of_isBlank (h : Text.isBlank c = true) : IsPlain c := by
  refine ⟨?_, ?_, ?_, ?_⟩ <;> rintro rfl <;> exact absurd h (by decide)

theorem isPlain_of_isChar (h : Name.isChar c = true) : IsPlain c := by
  refine ⟨?_, ?_, ?_, ?_⟩ <;> rintro rfl <;> exact absurd h (by decide)

theorem parens_plain (h : ∀ c ∈ w, IsPlain c) :
    parens i .plain (w ++ cs) = parens (i + w.length) .plain cs := by
  induction w generalizing i with
  | nil => rfl
  | cons c w ih =>
    obtain ⟨⟨h₁, h₂, h₃, h₄⟩, hw⟩ := List.forall_mem_cons.1 h
    rw [List.cons_append, parens, if_neg (by simp [h₁, h₂]), Mode.next, if_neg (by simp [h₃, h₄]),
      ih hw, List.length_cons, Nat.add_right_comm, Nat.add_assoc]

/-- A literal is skipped up to its closing quote. -/
theorem parens_quoted (before : List Char) {raw : List Char}
    (h : Literal.Enclosed q (before ++ raw)) (i : Nat) (cs : List Char) :
    parens i (.quoted q (before.getLast? == some '\\')) (raw ++ q :: cs) =
      parens (i + raw.length + 1) .plain cs := by
  induction raw generalizing before i with
  | nil =>
    have hlast := h.closing
    rw [List.append_nil] at hlast
    simp [parens, Mode.next, beq_false_of_ne hlast]
  | cons c raw ih =>
    -- a quote inside the literal has a backslash before it
    have hnext : (Mode.quoted q (before.getLast? == some '\\')).next c =
        .quoted q ((before ++ [c]).getLast? == some '\\') := by
      have hesc : ¬ (c = q ∧ (before.getLast? == some '\\') = false) := by
        rintro ⟨rfl, hesc⟩
        rw [h.inner before raw rfl] at hesc
        cases hesc
      rw [Mode.next, if_neg hesc]
      simp
    rw [List.append_cons] at h
    rw [List.cons_append, parens, if_neg (by simp), hnext, ih _ h, List.length_cons]
    congr 1
    omega

theorem parens_of_spells (h : Spells l w) :
    parens i .plain (w ++ cs) =
      Token.parens ⟨i, l⟩ ++ parens (i + w.length) .plain cs := by
  cases h with
  | opening | closing => rfl
  | bang | equal | notEqual | and | or | xor =>
    exact parens_plain (by simp [IsPlain])
  | reference hname =>
    refine parens_plain (List.forall_mem_cons.2 ⟨by simp [IsPlain], fun c hc => ?_⟩)
    exact isPlain_of_isChar (hname.2 c hc)
  | @literal q raw hq h =>
    have hskip := parens_quoted [] h (i + 1) cs
    have hopen : parens i .plain (q :: (raw ++ q :: cs)) =
        parens (i + 1) (.quoted q false) (raw ++ q :: cs) := by
      rw [parens, Mode.next, if_pos hq, if_neg]
      rcases hq with rfl | rfl <;> simp
    rw [List.cons_append, List.append_assoc, List.singleton_append, hopen]
    refine hskip.trans ?_
    simp only [Token.parens, List.nil_append, List.length_cons,
      List.length_append, List.length_nil]
    congr 1
    omega

theorem Placed.parens_eq (h : Placed i cs ts j rest) :
    parens i .plain cs = ts.flatMap Token.parens ++ parens j .plain rest := by
  induction h with
  | nil => rfl
  | @blank i j c cs _ _ hc _ ih =>
    rw [← ih]
    exact parens_plain (w := [c]) (by simpa using isPlain_of_isBlank hc)
  | token hw _ ih =>
    rw [parens_of_spells hw, ih, List.flatMap_cons, List.append_assoc]

theorem pairwise_parens : (parens i m cs).Pairwise (·.1 < ·.1) ∧ ∀ p ∈ parens i m cs, i ≤ p.1 := by
  induction cs generalizing i m with
  | nil => simp [parens]
  | cons c cs ih =>
    obtain ⟨hpair, hle⟩ := ih (i := i + 1) (m := m.next c)
    have hle' : ∀ p ∈ parens (i + 1) (m.next c) cs, i ≤ p.1 := fun p hp => by
      have := hle p hp
      omega
    rw [parens]
    split
    · exact ⟨List.pairwise_cons.2 ⟨fun p hp => hle p hp, hpair⟩,
        List.forall_mem_cons.2 ⟨Nat.le_refl i, hle'⟩⟩
    · exact ⟨hpair, hle'⟩

end Parens

/-! ### Partners -/

/-- Every parenthesis of the row has its partner in the row. -/
inductive Balanced : List Paren → Prop
  | nil : Balanced []
  | pair {k j : Nat} {inner rest : List Paren} (hi : Balanced inner) (hr : Balanced rest) :
      Balanced ((k, '(') :: (inner ++ (j, ')') :: rest))

/-- In the row `ps` the `(` at index `k` is closed by the `)` at index `j`. -/
def Partners (ps : List Paren) (k j : Nat) : Prop :=
  ∃ before inner after, ps = before ++ (k, '(') :: (inner ++ (j, ')') :: after) ∧ Balanced inner

/-- After the row `ps`, the `(` at the indices `gs` are open, the innermost first. -/
inductive Open : (gs : List Nat) → (ps : List Paren) → Prop
  | closed {ps : List Paren} (h : Balanced ps) : Open [] ps
  | opening {k : Nat} {gs : List Nat} {ps qs : List Paren} (h : Open gs ps) (hq : Balanced qs) :
      Open (k :: gs) (ps ++ (k, '(') :: qs)

/-- How many more parentheses a row opens than it closes. -/
def depth : List Paren → Int
  | [] => 0
  | p :: ps => (if p.2 = '(' then 1 else -1) + depth ps

section Partners

variable {ps qs before after : List Paren} {k j : Nat} {c : Char}

@[simp] theorem depth_nil : depth [] = 0 := rfl

@[simp] theorem depth_opening : depth ((k, '(') :: ps) = 1 + depth ps := rfl

@[simp] theorem depth_closing : depth ((k, ')') :: ps) = -1 + depth ps := rfl

@[simp] theorem depth_append : depth (ps ++ qs) = depth ps + depth qs := by
  induction ps with
  | nil => simp
  | cons p ps ih => rw [List.cons_append, depth, depth, ih, Int.add_assoc]

namespace Balanced

theorem append (h : Balanced ps) (h' : Balanced qs) : Balanced (ps ++ qs) := by
  induction h with
  | nil => exact h'
  | pair hi _ _ ihr =>
    rw [List.cons_append, List.append_assoc, List.cons_append]
    exact .pair hi ihr

theorem depth_eq (h : Balanced ps) : depth ps = 0 := by
  induction h with
  | nil => rfl
  | pair _ _ ihi ihr => simp [ihi, ihr]

theorem depth_take_nonneg (h : Balanced ps) (n : Nat) : 0 ≤ depth (ps.take n) := by
  induction h generalizing n with
  | nil => simp
  | @pair k j inner rest hi _ ihi ihr =>
    cases n with
    | zero => simp
    | succ n =>
      rw [List.take_succ_cons, depth_opening, List.take_append, depth_append]
      have hinner := ihi n
      cases hn : n - inner.length with
      | zero => simp only [List.take_zero, depth_nil]; omega
      | succ m =>
        -- all of `inner` is in the prefix
        have hrest := ihr m
        rw [List.take_of_length_le (by omega), hi.depth_eq, List.take_succ_cons, depth_closing]
        omega

theorem depth_nonneg (h : Balanced (before ++ after)) : 0 ≤ depth before := by
  have := h.depth_take_nonneg before.length
  rwa [List.take_left] at this

end Balanced

theorem Partners.weaken (h : Partners ps k j) (before after : List Paren) :
    Partners (before ++ ps ++ after) k j := by
  obtain ⟨xs, inner, ys, rfl, hi⟩ := h
  exact ⟨before ++ xs, inner, ys ++ after, by simp, hi⟩

theorem Partners.mem (h : Partners ps k j) : (k, '(') ∈ ps ∧ (j, ')') ∈ ps := by
  obtain ⟨xs, inner, ys, rfl, -⟩ := h
  simp

theorem Balanced.exists_partner (h : Balanced ps) :
    (∀ k, (k, '(') ∈ ps → ∃ j, Partners ps k j) ∧ ∀ j, (j, ')') ∈ ps → ∃ k, Partners ps k j := by
  induction h with
  | nil => simp
  | @pair k₀ j₀ inner rest hi hr ihi ihr =>
    have hpair : Partners ((k₀, '(') :: (inner ++ (j₀, ')') :: rest)) k₀ j₀ :=
      ⟨[], inner, rest, rfl, hi⟩
    have hinner : ∀ {k j}, Partners inner k j →
        Partners ((k₀, '(') :: (inner ++ (j₀, ')') :: rest)) k j := fun h => by
      simpa using h.weaken [(k₀, '(')] ((j₀, ')') :: rest)
    have hrest : ∀ {k j}, Partners rest k j →
        Partners ((k₀, '(') :: (inner ++ (j₀, ')') :: rest)) k j := fun h => by
      simpa using h.weaken ((k₀, '(') :: (inner ++ [(j₀, ')')])) []
    constructor
    · intro k hk
      simp only [List.mem_cons, List.mem_append, Prod.mk.injEq] at hk
      rcases hk with ⟨rfl, -⟩ | hk | ⟨-, hk⟩ | hk
      · exact ⟨j₀, hpair⟩
      · exact (ihi.1 k hk).imp fun _ => hinner
      · exact absurd hk (by decide)
      · exact (ihr.1 k hk).imp fun _ => hrest
    · intro j hj
      simp only [List.mem_cons, List.mem_append, Prod.mk.injEq] at hj
      rcases hj with ⟨-, hj⟩ | hj | ⟨rfl, -⟩ | hj
      · exact absurd hj (by decide)
      · exact (ihi.2 j hj).imp fun _ => hinner
      · exact ⟨k₀, hpair⟩
      · exact (ihr.2 j hj).imp fun _ => hrest

theorem Open.append {gs : List Nat} (h : Open gs ps) (hq : Balanced qs) : Open gs (ps ++ qs) := by
  cases h with
  | closed h => exact .closed (h.append hq)
  | opening h hq' =>
    rw [List.append_assoc, List.cons_append]
    exact .opening h (hq'.append hq)

theorem Open.close {gs : List Nat} (h : Open (k :: gs) ps) : Open gs (ps ++ [(j, ')')]) := by
  cases h with
  | opening h hq =>
    rw [List.append_assoc, List.cons_append]
    exact h.append (.pair hq .nil)

theorem Open.exists_partner {gs : List Nat} (h : Open gs ps) :
    ∀ j, (j, ')') ∈ ps → ∃ k, Partners ps k j := by
  induction h with
  | closed h => exact h.exists_partner.2
  | @opening k₀ _ ps qs _ hq ih =>
    intro j hj
    simp only [List.mem_append, List.mem_cons, Prod.mk.injEq] at hj
    rcases hj with hj | ⟨-, hj⟩ | hj
    · refine (ih j hj).imp fun k hk => ?_
      simpa using hk.weaken [] ((k₀, '(') :: qs)
    · exact absurd hj (by decide)
    · refine (hq.exists_partner.2 j hj).imp fun k hk => ?_
      simpa using hk.weaken (ps ++ [(k₀, '(')]) []

theorem lt_of_mem_before {p : Paren} (hps : (before ++ (k, c) :: after).Pairwise (·.1 < ·.1))
    (hp : p ∈ before) : p.1 < k :=
  (List.pairwise_append.1 hps).2.2 p hp _ List.mem_cons_self

theorem mem_of_split {p : Paren} (hps : (before ++ (k, c) :: after).Pairwise (·.1 < ·.1))
    (h : p ∈ before ++ (k, c) :: after) :
    p ∈ before ∧ p.1 < k ∨ p = (k, c) ∨ p ∈ after ∧ k < p.1 := by
  obtain ⟨-, hafter, -⟩ := List.pairwise_append.1 hps
  rcases List.mem_append.1 h with h | h
  · exact .inl ⟨h, lt_of_mem_before hps h⟩
  · rcases List.mem_cons.1 h with h | h
    · exact .inr (.inl h)
    · exact .inr (.inr ⟨h, (List.pairwise_cons.1 hafter).1 p h⟩)

theorem eq_of_split {before' after' : List Paren} {c' : Char}
    (hps : (before ++ (k, c) :: after).Pairwise (·.1 < ·.1))
    (h : before ++ (k, c) :: after = before' ++ (k, c') :: after') :
    before = before' ∧ after = after' := by
  rcases List.append_eq_append_iff.1 h with ⟨zs, rfl, hz⟩ | ⟨zs, rfl, hz⟩
  · cases zs with
    | nil => exact ⟨by simp, (List.cons.inj hz).2⟩
    | cons z zs =>
      rw [h, ← (List.cons.inj hz).1] at hps
      exact absurd (lt_of_mem_before (p := (k, c)) hps (by simp)) (Nat.lt_irrefl k)
  · cases zs with
    | nil => exact ⟨by simp, (List.cons.inj hz).2.symm⟩
    | cons z zs =>
      rw [← (List.cons.inj hz).1] at hps
      exact absurd (lt_of_mem_before (p := (k, c')) hps (by simp)) (Nat.lt_irrefl k)

theorem Balanced.not_partners (hps : (before ++ (j, ')') :: after).Pairwise (·.1 < ·.1))
    (h : Balanced before) (k : Nat) : ¬ Partners (before ++ (j, ')') :: after) k j := by
  rintro ⟨xs, inner, ys, heq, hi⟩
  rw [← List.cons_append, ← List.append_assoc] at heq
  obtain ⟨rfl, -⟩ := eq_of_split hps heq
  have hsum := h.depth_eq
  have hxs := h.depth_nonneg
  rw [depth_append, depth_opening, hi.depth_eq] at hsum
  omega

theorem Balanced.not_partners_left (hps : (before ++ (k, '(') :: after).Pairwise (·.1 < ·.1))
    (h : Balanced after) (j : Nat) : ¬ Partners (before ++ (k, '(') :: after) k j := by
  rintro ⟨xs, inner, ys, heq, hi⟩
  obtain ⟨-, rfl⟩ := eq_of_split hps heq
  rw [List.append_cons] at h
  have hneg := h.depth_nonneg
  rw [depth_append, hi.depth_eq, depth_closing, depth_nil] at hneg
  omega

end Partners

/-! ### The open groups -/

/-- The indices of the open groups, the innermost first. -/
def groupIndices (scopes : List Scope) : List Nat :=
  (scopes.filter (·.kind == .group)).map (·.index)

section Groups

variable {scopes scopes' : List Scope} {t : Token} {i : Nat} {ps : List Paren}

theorem groupIndices_cons {s s₀ : Scope} (hk : s.kind = s₀.kind) (hi : s.index = s₀.index) :
    groupIndices (s :: scopes) = groupIndices (s₀ :: scopes) := by
  simp only [groupIndices, List.filter_cons, hk]
  split
  · rw [List.map_cons, List.map_cons, hi]
  · rfl

theorem Shrinks.groupIndices_eq (h : Shrinks scopes scopes') :
    groupIndices scopes' = groupIndices scopes := by
  cases h with
  | @intro gone _ _ _ hs hgone =>
    have hnone : gone.filter (·.kind == .group) = [] :=
      List.filter_eq_nil_iff.2 fun g hg => by simpa using hgone g hg
    rw [groupIndices_cons hs.kind hs.index, groupIndices, groupIndices, List.filter_append, hnone,
      List.nil_append]

theorem Arrives.groupIndices_eq (h : Arrives i scopes scopes') :
    groupIndices scopes' = groupIndices scopes := by
  cases h with
  | taken h => exact groupIndices_cons h.kind h.index
  | held _ => rfl

/-- The groups that are open are those whose `(` is. -/
theorem Effect.isOpen (h : Effect t scopes scopes') (ho : Open (groupIndices scopes) ps) :
    Open (groupIndices scopes') (ps ++ t.parens) := by
  -- what is neither a group nor its end has no parenthesis and leaves the groups as they are
  have hother : groupIndices scopes' = groupIndices scopes → t.parens = [] →
      Open (groupIndices scopes') (ps ++ t.parens) := fun hsame ht => by
    rw [hsame, ht]
    simpa using ho
  cases h with
  | @openGroup rest ht h =>
    have hparen : t.parens = [(t.start, '(')] := by rw [Token.parens, ht]
    rw [← h.groupIndices_eq] at ho
    rw [hparen]
    exact .opening ho .nil
  | @closeGroup g outer below _ ht h hg ha =>
    have hparen : t.parens = [(t.start, ')')] := by rw [Token.parens, ht]
    have hcons : groupIndices (g :: outer :: below) = g.index :: groupIndices (outer :: below) := by
      simp [groupIndices, hg]
    rw [← h.groupIndices_eq, hcons, ← ha.groupIndices_eq] at ho
    rw [hparen]
    exact ho.close
  | openNegation ht h => exact hother h.groupIndices_eq (by rw [Token.parens, ht])
  | operate ht h _ =>
    refine hother ?_ (by rw [Token.parens, ht])
    rw [← h.groupIndices_eq]
    exact groupIndices_cons rfl rfl
  | operand hb he ha =>
    refine hother ha.groupIndices_eq ?_
    rw [Token.parens]
    split
    · next hl => rw [hl] at he; cases he
    · next hl => rw [hl] at hb; cases hb
    · rfl

theorem Reached.isOpen {text : String} {before after : List Token} {st : State}
    (h : Reached text before after st) :
    Open (groupIndices st.scopes) (before.flatMap Token.parens) := by
  let P (done : List Token) (scopes : List Scope) : Prop :=
    Open (groupIndices scopes) (done.flatMap Token.parens)
  refine h.invariant (P := P) (.closed .nil) ?_
  intro done t scopes scopes' _ ho heffect
  have hopen := heffect.isOpen ho
  rwa [← List.flatMap_singleton Token.parens, ← List.flatMap_append] at hopen

theorem groupIndices_eq_nil {st : State} {ls : List Lexeme} (h : st.Reads ls) (hg : st.groups = 0) :
    groupIndices st.scopes = [] := by
  rw [h.groups, List.countP_eq_zero] at hg
  rw [groupIndices, List.filter_eq_nil_iff.2 hg, List.map_nil]

end Groups

/-! ### Reports -/

variable {text : String} {e : Expr} {err : SyntaxError}

/-- The parentheses of `text` outside literals. -/
def parensOf (text : String) : List Paren := parens 0 .plain text.toList

theorem Reached.parensOf_eq {before after : List Token} {st : State}
    (h : Reached text before after st) :
    ∃ rest, parensOf text = before.flatMap Token.parens ++ (after.flatMap Token.parens ++ rest) ∧
      ((Scan.run 0 text.toList).fault = none → rest = []) := by
  obtain ⟨j, rest, hp, hend, -⟩ := Scan.placed 0 text.toList
  refine ⟨parens j .plain rest, ?_, fun hfault => by rw [hend hfault]; rfl⟩
  rw [parensOf, hp.parens_eq, h.tokens, List.flatMap_append, List.append_assoc]

theorem balanced_of_parse (h : parse text = .ok e) : Balanced (parensOf text) := by
  obtain ⟨st, hr, hfault, hfinish⟩ := reached_of_parse h
  have hg : st.groups = 0 := by
    by_contra hg
    rw [State.finish, if_pos hg] at hfinish
    split at hfinish <;> cases hfinish
  have hopen := hr.isOpen
  rw [groupIndices_eq_nil hr.reads hg] at hopen
  obtain ⟨rest, hps, hrest⟩ := hr.parensOf_eq
  rw [hps, hrest hfault, List.flatMap_nil, List.append_nil, List.append_nil]
  cases hopen with
  | closed h => exact h

/-- A parenthesis is reported at a `)` while no group is open, and at the innermost open group when
the text has ended. -/
theorem Refused.of_unmatched {e : Fault.Located} {c : Char} (h : Refused text e)
    (hf : e.fault = .unmatched c) :
    (c = ')' ∧ ∃ before t after st, Reached text before (t :: after) st ∧ t = ⟨e.index, .closing⟩ ∧
      st.groups = 0) ∨
    (c = '(' ∧ ∃ before st g, Reached text before [] st ∧ (Scan.run 0 text.toList).fault = none ∧
      st.scopes.find? (·.kind == .group) = some g ∧ g.index = e.index) := by
  have hscope : ∀ {scopes : List Scope}, ¬ OpenFault scopes e := fun h => by cases h <;> cases hf
  cases h with
  | scan h =>
    obtain ⟨_, _, _, h⟩ := lexFault_of_scan h
    cases h <;> cases hf
  | @step before after t st _ hr h =>
    cases h with
    | unexpected => cases hf
    | unmatched ht hg =>
      cases hf
      exact .inl ⟨rfl, before, t, after, st, hr, by rw [← ht], hg⟩
    | sign _ _ hsign => rcases hsign with rfl | rfl | rfl <;> cases hf
    | scope h => exact absurd h hscope
  | @finish before st _ hr hfault h =>
    cases h with
    | unclosed hg => cases hf; exact .inr ⟨rfl, before, st, _, hr, hfault, hg, rfl⟩
    | scope h => exact absurd h hscope
    | empty _ => cases hf

theorem exists_of_unmatched_closing (h : parse text = .error err)
    (hf : err.fault = .unmatched ')') :
    ∃ before after, parensOf text = before ++ (err.index, ')') :: after ∧ Balanced before := by
  have hcases := (refused_of_parse h).2.of_unmatched hf
  rcases hcases with ⟨-, before, t, after, st, hr, rfl, hg⟩ | ⟨hc, -⟩
  · have hopen := hr.isOpen
    rw [groupIndices_eq_nil hr.reads hg] at hopen
    obtain ⟨rest, hps, -⟩ := hr.parensOf_eq
    cases hopen with
    | closed h => exact ⟨_, _, hps, h⟩
  · exact absurd hc (by decide)

theorem exists_of_unmatched_opening (h : parse text = .error err)
    (hf : err.fault = .unmatched '(') :
    ∃ before after gs, parensOf text = before ++ (err.index, '(') :: after ∧ Open gs before ∧
      Balanced after := by
  have hcases := (refused_of_parse h).2.of_unmatched hf
  rcases hcases with ⟨hc, -⟩ | ⟨-, before, st, g, hr, hfault, hg, hi⟩
  · exact absurd hc (by decide)
  · have hhead : (groupIndices st.scopes).head? = some err.index := by
      rw [groupIndices, List.head?_map, List.head?_filter, hg, Option.map_some, hi]
    obtain ⟨rest, hps, hrest⟩ := hr.parensOf_eq
    rw [hrest hfault, List.flatMap_nil, List.append_nil, List.append_nil] at hps
    rw [hps]
    generalize before.flatMap Token.parens = ps, groupIndices st.scopes = gs,
      hr.isOpen = hopen at hhead ⊢
    cases hopen with
    | closed _ => cases hhead
    | opening ho hq => cases hhead; exact ⟨_, _, _, rfl, ho, hq⟩

/-- Reports about parentheses are true of the parentheses outside literals: those of a text that is
read are balanced; a `)` that is reported has no partner, since every `(` before it is closed before
it; a `(` that is reported is never closed, every later one is, and every `)` has a partner. -/
theorem parenthesis_reports_are_true (text : String) :
    (∀ e, parse text = .ok e → Balanced (parensOf text)) ∧
    (∀ err, parse text = .error err → err.fault = .unmatched ')' →
      (err.index, ')') ∈ parensOf text ∧
      (∀ k < err.index, (k, '(') ∈ parensOf text → ∃ j < err.index, Partners (parensOf text) k j) ∧
      ∀ k, ¬ Partners (parensOf text) k err.index) ∧
    ∀ err, parse text = .error err → err.fault = .unmatched '(' →
      (err.index, '(') ∈ parensOf text ∧
      (∀ j, ¬ Partners (parensOf text) err.index j) ∧
      (∀ k > err.index, (k, '(') ∈ parensOf text → ∃ j, Partners (parensOf text) k j) ∧
      ∀ j, (j, ')') ∈ parensOf text → ∃ k, Partners (parensOf text) k j := by
  have hsorted : (parensOf text).Pairwise (·.1 < ·.1) := pairwise_parens.1
  refine ⟨fun e h => balanced_of_parse h, fun err h hf => ?_, fun err h hf => ?_⟩
  · -- what is before the `)` is balanced, so that its own partner would be missing there
    obtain ⟨before, after, hps, hb⟩ := exists_of_unmatched_closing h hf
    rw [hps] at hsorted ⊢
    refine ⟨by simp, fun k hlt hk => ?_, hb.not_partners hsorted⟩
    have hmem : (k, '(') ∈ before := by
      rcases mem_of_split hsorted hk with ⟨hk, -⟩ | hk | ⟨-, hgt⟩
      · exact hk
      · cases hk
      · exact absurd hlt (Nat.lt_asymm hgt)
    obtain ⟨j, hj⟩ := hb.exists_partner.1 k hmem
    refine ⟨j, lt_of_mem_before hsorted hj.mem.2, ?_⟩
    simpa using hj.weaken [] ((err.index, ')') :: after)
  · -- what is after the `(` is balanced, so that it takes up all later parentheses
    obtain ⟨before, after, gs, hps, ho, hb⟩ := exists_of_unmatched_opening h hf
    have hopen : Open (err.index :: gs) (parensOf text) := hps ▸ .opening ho hb
    refine ⟨by simp [hps], ?_, fun k hlt hk => ?_, hopen.exists_partner⟩
    · rw [hps] at hsorted ⊢
      exact hb.not_partners_left hsorted
    · rw [hps] at hsorted hk ⊢
      have hmem : (k, '(') ∈ after := by
        rcases mem_of_split hsorted hk with ⟨-, hgt⟩ | hk | ⟨hk, -⟩
        · exact absurd hlt (Nat.lt_asymm hgt)
        · cases hk
          exact absurd hlt (Nat.lt_irrefl _)
        · exact hk
      obtain ⟨j, hj⟩ := hb.exists_partner.1 k hmem
      refine ⟨j, ?_⟩
      simpa using hj.weaken (before ++ [(err.index, '(')]) []

/-- The parenthesis in the literal does not close the group. -/
theorem report_of_quoted_parenthesis :
    ∃ err, parse "$a == (')' " = .error err ∧ err.fault = .unmatched '(' ∧
      parensOf "$a == (')' " = [(6, '(')] ∧
      ∀ j, ¬ Partners (parensOf "$a == (')' ") err.index j := by
  have h : parse "$a == (')' " = .error ⟨"$a == (')' ", 6, .unmatched '('⟩ := by decide +kernel
  exact ⟨_, h, rfl, by decide +kernel, ((parenthesis_reports_are_true _).2.2 _ h rfl).2.1⟩

end Scaffold.Stack
