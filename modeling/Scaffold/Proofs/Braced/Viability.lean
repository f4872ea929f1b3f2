import Scaffold.Proofs.Braced.Language
import Scaffold.Proofs.Braced.RoundTrip

/-!
# Where a text is refused

A text without a grammar tree is refused where it stops being the beginning of one that has a tree.
A run that fails has taken the tokens of everything before its index (`State.exists_stuck`), and
whatever state it is in, some tokens lead to an end: they finish an array or an operand and then
close every open parenthesis (`State.viable`).

A text with a grammar tree is refused for one of its nodes. `Derives.Part` tells which tokens of the
row are the node's own; the index of the complaint is that of the first of them.
-/

namespace Scaffold.Braced

/-! ### Runs that fail -/

/-- Why the machine does not go on in state `st` at index `i`, where the characters `cs` are left. -/
inductive State.Stuck (st : State) (i : Nat) : (cs : List Char) → Fault → Prop
  | ending (h : st.finish? = none) : Stuck st i [] (.unexpected none none)
  | character {c : Char} {cs : List Char} (h : tokenAt st.operandDue (c :: cs) = none) :
      Stuck st i (c :: cs) (.unexpected (some c) none)
  | token {t : Token} {w rest : List Char} (hw : Spells t w) (h : st.step? t i = none) :
      Stuck st i (w ++ rest) (.unexpectedToken t.lexeme)

theorem State.exists_stuck {st : State} {i : Nat} {cs : List Char} {e : Fault.Located}
    (h : st.run i cs = .error e) :
    ∃ before after ts st', cs = before ++ after ∧ Spelled i ts before ∧ st.feed ts = some st' ∧
      e.index = i + before.length ∧ st'.Stuck e.index after e.fault := by
  -- a run gets stuck at the end, at a character or at a token; else it goes on behind the token
  fun_induction run st i cs with
  | case1 => cases h
  | case2 st i hfin => cases h; exact ⟨[], [], [], st, rfl, .nil, rfl, rfl, .ending hfin⟩
  | case3 st i c cs hc ih =>
    obtain ⟨before, after, ts, st', rfl, hsp, hf, hi, hstuck⟩ := ih h
    refine ⟨c :: before, after, ts, st', rfl, .blank hc hsp, hf, ?_, hstuck⟩
    rw [hi, List.length_cons]
    omega
  | case4 st i c cs hc hnone =>
    cases h
    exact ⟨[], c :: cs, [], st, rfl, .nil, rfl, rfl, .character hnone⟩
  | case5 st i c cs hc t rest ht hs =>
    cases h
    obtain ⟨w, hw, hcs⟩ := spells_of_tokenAt ht
    exact ⟨[], c :: cs, [], st, rfl, .nil, rfl, rfl, hcs ▸ .token hw hs⟩
  | case6 st i c cs hc t rest ht st₁ hs ih =>
    obtain ⟨before, after, ts, st', rfl, hsp, hf, hi, hstuck⟩ := ih h
    obtain ⟨w, hw, hcs⟩ := spells_of_tokenAt ht
    rw [hcs, List.length_append, Nat.add_sub_cancel] at hsp hi
    refine ⟨w ++ before, after, ⟨t, i⟩ :: ts, st', ?_, .token hw hsp, ?_, ?_, hstuck⟩
    · rw [hcs, List.append_assoc]
    · rw [feed_cons, hs]; exact hf
    · rw [hi, List.length_append, Nat.add_assoc]

/-! ### Ways to an end -/

/-- From `st` some tokens lead to the end of a text, wherever they stand. -/
def State.Viable (st : State) : Prop :=
  ∀ i, ∃ us w st' t, Spelled i us w ∧ st.feed us = some st' ∧ st'.finish? = some t

theorem State.Viable.of_step {st : State} {t : Token} {w : List Char} (hw : Spells t w)
    (h : ∀ i, ∃ st', st.step? t i = some st' ∧ st'.Viable) : st.Viable := by
  intro i
  obtain ⟨st₁, hs, hv⟩ := h i
  obtain ⟨us, w', st', tree, hsp, hf, hfin⟩ := hv (i + w.length)
  exact ⟨⟨t, i⟩ :: us, w ++ w', st', tree, .token hw hsp, by rw [feed_cons, hs]; exact hf, hfin⟩

/-- Once every operator has its right operand, the innermost frame is a parenthesis. -/
theorem reduce_zero_cases (last : Operand) (fs : List Frame) :
    (reduce 0 last fs).2 = [] ∨
      ∃ i fs', (reduce 0 last fs).2 = .paren i :: fs' ∧ fs'.length < fs.length := by
  induction fs generalizing last with
  | nil => exact .inl rfl
  | cons f fs ih =>
    have hshift : ∀ last', ((reduce 0 last' fs).2 = [] ∨ ∃ i fs', (reduce 0 last' fs).2 =
        .paren i :: fs' ∧ fs'.length < (f :: fs).length) := fun last' => by
      rcases ih last' with h | ⟨i, fs', h, hlt⟩
      · exact .inl h
      · exact .inr ⟨i, fs', h, Nat.lt_succ_of_lt hlt⟩
    cases f with
    | paren i => exact .inr ⟨i, fs, rfl, Nat.lt_succ_self _⟩
    | not i => exact hshift _
    | binary op i l =>
      rw [reduce, if_pos (Nat.zero_le _)]
      exact hshift _

theorem State.viable_operator (fs : List Frame) (last : Operand) :
    State.Viable ⟨fs, .operator last⟩ := by
  induction hn : fs.length using Nat.strongRecOn generalizing fs last with
  | ind n ih =>
    rcases hred : reduce 0 last fs with ⟨o, fs'⟩
    have hcases := reduce_zero_cases last fs
    rw [hred] at hcases
    rcases hcases with rfl | ⟨j, fs'', rfl, hlt⟩
    · -- every parenthesis is closed
      exact fun i => ⟨[], [], _, o.tree, .nil, rfl, by simp [finish?, hred]⟩
    · refine .of_step .closing fun i => ⟨⟨fs'', .operator ⟨o.tree, j⟩⟩, ?_, ?_⟩
      · simp [step?, hred]
      · exact ih fs''.length (hn ▸ hlt) fs'' _ rfl

theorem State.viable (st : State) : st.Viable := by
  obtain ⟨fs, phase⟩ := st
  have hclose : ∀ st : State,
      (∀ i, ∃ last, st.step? .closeBracket i = some ⟨fs, .operator last⟩) → st.Viable := by
    intro st h
    refine .of_step .closeBracket fun i => ?_
    obtain ⟨last, hs⟩ := h i
    exact ⟨_, hs, viable_operator fs last⟩
  cases phase with
  | operand => exact .of_step .true fun i => ⟨_, rfl, viable_operator fs _⟩
  | operator last => exact viable_operator fs last
  | arrayStart j => exact hclose _ fun i => ⟨_, rfl⟩
  | arrayItem j items => exact hclose _ fun i => ⟨_, rfl⟩
  | arrayComma j items =>
    have hquotes : Spells (.string '\'' "") _ := .string (.inl rfl) (by simp)
    refine .of_step hquotes fun i => ⟨_, rfl, ?_⟩
    exact hclose _ fun i => ⟨_, rfl⟩

theorem exists_generates_append {before : List Char} {ts : List Located} {st : State}
    (hsp : Spelled 0 ts before) (hf : State.start.feed ts = some st) :
    ∃ (w : String) (t : Tree), Generates (String.ofList before ++ w) t := by
  obtain ⟨us, w, st', t, hsp', hf', hfin⟩ := st.viable (0 + before.length)
  refine ⟨String.ofList w, t, parseTree_eq_ok_iff.1 ?_⟩
  rw [parseTree, String.toList_append, String.toList_ofList, String.toList_ofList]
  refine State.run_of_spelled (hsp.append hsp') ?_ hfin
  rw [State.feed_append, hf, Option.bind_some, hf']

/-! ### Parts of a derivation -/

/-- In a derivation of `t` at level `a` from the row `before ++ own ++ after`, the tokens `own` are
those from which the node `s` is derived, at level `b`. -/
inductive Derives.Part (b : Level) (own : List Located) (s : Tree) :
    (a : Level) → (before after : List Located) → (t : Tree) → Prop
  | whole (h : Derives b own s) : Part b own s b [] [] s
  | looser {a : Level} {before after : List Located} {t : Tree}
      (h : Part b own s a before after t) : Part b own s a.looser before after t
  | left (op : Infix) (i : Nat) {before after rs : List Located} {l r : Tree}
      (hl : Part b own s op.outer before after l) (hr : Derives op.inner rs r) :
      Part b own s op.outer before (after ++ ⟨op.token, i⟩ :: rs)
        (.binary op (first (before ++ own ++ after)) l r)
  | right (op : Infix) (i : Nat) {before after ls : List Located} {l r : Tree}
      (hl : Derives op.outer ls l) (hr : Part b own s op.inner before after r) :
      Part b own s op.outer (ls ++ ⟨op.token, i⟩ :: before) after (.binary op (first ls) l r)
  | not (i : Nat) {before after : List Located} {t : Tree}
      (h : Part b own s .unary before after t) :
      Part b own s .unary (⟨.bang, i⟩ :: before) after (.not t)
  | paren (i j : Nat) {before after : List Located} {t : Tree}
      (h : Part b own s .or before after t) :
      Part b own s .atom (⟨.opening, i⟩ :: before) (after ++ [⟨.closing, j⟩]) t

/-- In a derivation of `t` at level `a` from `ts`, the operator `op` is applied to `l` and `r`, and
`i` is the index of the first token of this application. -/
def Derives.Applies (a : Level) (ts : List Located) (t : Tree) (op : Infix) (i : Nat) (l r : Tree) :
    Prop :=
  ∃ before ls k rs after, ts = before ++ (ls ++ ⟨op.token, k⟩ :: rs) ++ after ∧
    Part op.outer (ls ++ ⟨op.token, k⟩ :: rs) (.binary op i l r) a before after t ∧
    Derives op.outer ls l ∧ Derives op.inner rs r ∧ i = first ls

namespace Derives

variable {a : Level} {ts ls rs : List Located} {t l r l' r' : Tree} {op : Infix} {i k : Nat}

theorem Applies.looser (h : Applies a ts t op i l r) : Applies a.looser ts t op i l r := by
  obtain ⟨before, ls, k, rs, after, hts, hpart, hrest⟩ := h
  exact ⟨before, ls, k, rs, after, hts, hpart.looser, hrest⟩

theorem Applies.binary (op' : Infix) (hl : Derives op'.outer ls l') (hr : Derives op'.inner rs r')
    (ihl : .binary op i l r ∈ l'.postorder → Applies op'.outer ls l' op i l r)
    (ihr : .binary op i l r ∈ r'.postorder → Applies op'.inner rs r' op i l r)
    (h : .binary op i l r ∈ (Tree.binary op' (first ls) l' r').postorder) :
    Applies op'.outer (ls ++ ⟨op'.token, k⟩ :: rs) (.binary op' (first ls) l' r') op i l r := by
  simp only [Tree.postorder, List.mem_append, List.mem_singleton] at h
  rcases h with h | h | h
  · obtain ⟨before, ls', k', rs', after, rfl, hpart, hrest⟩ := ihl h
    exact ⟨before, ls', k', rs', _, by simp, hpart.left op' k hr, hrest⟩
  · obtain ⟨before, ls', k', rs', after, rfl, hpart, hrest⟩ := ihr h
    exact ⟨_, ls', k', rs', after, by simp, hpart.right op' k hl, hrest⟩
  · cases h
    exact ⟨[], ls, k, rs, [], by simp, .whole (hl.binary op k hr), hl, hr, rfl⟩

/-- Every binary node of the tree is the application of an operator in the row. -/
theorem applies (h : Derives a ts t) (hs : .binary op i l r ∈ t.postorder) :
    Applies a ts t op i l r := by
  induction h with
  | ofAnd _ ih | ofEquality _ ih | ofHolding _ ih | ofUnary _ ih | ofAtom _ ih =>
    exact (ih hs).looser
  | or _ hl hr ihl ihr => exact .binary .or hl hr ihl ihr hs
  | and _ hl hr ihl ihr => exact .binary .and hl hr ihl ihr hs
  | equal _ hl hr ihl ihr => exact .binary .equal hl hr ihl ihr hs
  | notEqual _ hl hr ihl ihr => exact .binary .notEqual hl hr ihl ihr hs
  | contains _ hl hr ihl ihr => exact .binary .contains hl hr ihl ihr hs
  | not j _ ih =>
    simp only [Tree.postorder, List.mem_append, List.mem_singleton, reduceCtorEq, or_false] at hs
    obtain ⟨before, ls, k, rs, after, rfl, hpart, hrest⟩ := ih hs
    exact ⟨_, ls, k, rs, after, rfl, hpart.not j, hrest⟩
  | paren j j' _ ih =>
    obtain ⟨before, ls, k, rs, after, rfl, hpart, hrest⟩ := ih hs
    exact ⟨_, ls, k, rs, _, by simp, hpart.paren j j', hrest⟩
  | reference _ _ | string _ _ _ | true _ | false _ | emptyArray _ _ | array _ _ _ =>
    simp [Tree.postorder] at hs

end Derives

theorem Tree.exists_binary_of_misfit? {t : Tree} {e : Fault.Located} (h : t.misfit? = some e) :
    ∃ op l r, t = .binary op e.index l r := by
  unfold misfit? at h
  split at h
  · split at h <;> cases h <;> exact ⟨_, _, _, rfl⟩
  · split at h <;> cases h <;> exact ⟨_, _, _, rfl⟩
  · split at h <;> cases h <;> exact ⟨_, _, _, rfl⟩
  · cases h

theorem Spelled.exists_spells {i : Nat} {ts : List Located} {cs : List Char} {t : Located}
    (h : Spelled i ts cs) (ht : t ∈ ts) :
    ∃ done w rest, cs = done ++ (w ++ rest) ∧ t.index = i + done.length ∧ Spells t.token w := by
  induction h with
  | nil => cases ht
  | @blank i c _ _ _ _ ih =>
    obtain ⟨done, w, rest, rfl, hi, hw⟩ := ih ht
    exact ⟨c :: done, w, rest, rfl, by rw [hi, List.length_cons]; omega, hw⟩
  | @token i t₀ _ w cs hw _ ih =>
    rcases List.mem_cons.1 ht with rfl | ht
    · exact ⟨[], w, cs, rfl, rfl, hw⟩
    · obtain ⟨done, w', rest, rfl, hi, hw'⟩ := ih ht
      exact ⟨w ++ done, w', rest, by simp, by rw [hi, List.length_append]; omega, hw'⟩

/-! ### Whole texts -/

/-- At index `i` of `text` stands the token `t`. -/
def Begins (text : String) (i : Nat) (t : Token) : Prop :=
  Spells t t.chars ∧ t.chars <+: text.toList.drop i

/-- At index `i` of `text` stands the first token of an application whose operands do not suit its
operator; `fault` is the complaint about it. -/
def Offends (text : String) (i : Nat) (fault : Fault) : Prop :=
  ∃ ts t op l r, Spelled 0 ts text.toList ∧ Derives .or ts t ∧ Derives.Applies .or ts t op i l r ∧
    (Tree.binary op i l r).misfit? = some ⟨i, fault⟩ ∧
    ∃ tok ∈ ts, tok.index = i ∧ Begins text i tok.token

/-- The text has, at index `i`, what the fault names. -/
def Points (text : String) (i : Nat) : Fault → Prop
  | .unexpected (some c) _ => text.toList[i]? = some c
  | .unexpected none _ => i = text.length
  | .unexpectedToken lexeme => ∃ t, t.lexeme = lexeme ∧ Begins text i t
  | .invalidOperand op side => Offends text i (.invalidOperand op side)
  | _ => False

variable {text : String} {err : SyntaxError}

theorem Spells.eq_chars {t : Token} {w : List Char} (h : Spells t w) : w = t.chars := by
  cases h <;> rfl

theorem Spelled.begins {ts : List Located} {t : Located} (h : Spelled 0 ts text.toList)
    (ht : t ∈ ts) : Begins text t.index t.token := by
  obtain ⟨done, w, rest, htext, hi, hw⟩ := h.exists_spells ht
  obtain rfl := hw.eq_chars
  refine ⟨hw, rest, ?_⟩
  rw [htext, hi, Nat.zero_add, List.drop_left]

theorem offends_of_toExpr {t : Tree} {e : Fault.Located} (hg : Generates text t)
    (h : t.toExpr = .error e) : Offends text e.index e.fault := by
  obtain ⟨ts, hsp, hd⟩ := hg
  rw [Tree.toExpr_eq_error_iff] at h
  obtain ⟨node, hnode, hmisfit⟩ := List.exists_of_findSome?_eq_some h
  obtain ⟨op, l, r, rfl⟩ := Tree.exists_binary_of_misfit? hmisfit
  have happ := hd.applies hnode
  refine ⟨ts, t, op, l, r, hsp, hd, happ, hmisfit, ?_⟩
  obtain ⟨before, ls, k, rs, after, rfl, -, hl, -, hi⟩ := happ
  obtain ⟨tok, ls, rfl⟩ := List.exists_cons_of_ne_nil hl.ne_nil
  have htok : tok.index = e.index := hi.symm
  refine ⟨tok, by simp, htok, ?_⟩
  rw [← htok]
  exact hsp.begins (by simp)

theorem State.points_of_run {e : Fault.Located} (h : State.start.run 0 text.toList = .error e) :
    Points text e.index e.fault ∧
      ∃ w t, Generates (String.ofList (text.toList.take e.index) ++ w) t := by
  obtain ⟨before, after, ts, st, htext, hsp, hf, hi, hstuck⟩ := State.exists_stuck h
  rw [Nat.zero_add] at hi
  have hdrop : text.toList.drop e.index = after := by rw [htext, hi, List.drop_left]
  refine ⟨?_, ?_⟩
  · generalize e.fault = fault, e.index = j at hi hstuck hdrop
    cases hstuck with
    | ending _ =>
      rw [Points, ← String.length_toList, htext, List.append_nil]
      exact hi
    | character _ => rw [Points, ← List.head?_drop, hdrop]; rfl
    | token hw _ =>
      obtain rfl := hw.eq_chars
      exact ⟨_, rfl, hw, by rw [hdrop]; simp⟩
  · rw [htext, hi, List.take_left]
    exact exists_generates_append hsp hf

/-- Every error carries the text and points at what it names. A text that is refused for anything
but the shape of an operand could have gone on, before the index of the error, to a text with a
grammar tree, which is read or refused for the shape of an operand only. -/
theorem error_at_first_dead_end (text : String) (err : SyntaxError) (h : parse text = .error err) :
    err.text = text ∧ Points text err.index err.fault ∧
      ((∀ op side, err.fault ≠ .invalidOperand op side) →
        ∃ w t, Generates (String.ofList (text.toList.take err.index) ++ w) t ∧
          ((∃ e, parse (String.ofList (text.toList.take err.index) ++ w) = .ok e) ∨
            ∃ err', parse (String.ofList (text.toList.take err.index) ++ w) = .error err' ∧
              ∃ op side, err'.fault = .invalidOperand op side)) := by
  obtain ⟨e, htree, rfl⟩ := mapError_eq_error.1 h
  refine ⟨rfl, ?_⟩
  rcases bind_eq_error.1 htree with hrun | ⟨t, ht, he⟩
  · obtain ⟨hpoints, w, t, hg⟩ := State.points_of_run hrun
    refine ⟨hpoints, fun _ => ⟨w, t, hg, ?_⟩⟩
    rw [Fault.Located.within, parse_of_generates hg]
    cases hexpr : t.toExpr with
    | ok e' => exact .inl ⟨e', rfl⟩
    | error e' => exact .inr ⟨_, rfl, exists_invalidOperand_of_toExpr hexpr⟩
  · obtain ⟨op, side, hfault⟩ := exists_invalidOperand_of_toExpr he
    have hoff := offends_of_toExpr (parseTree_eq_ok_iff.1 ht) he
    refine ⟨?_, fun hne => absurd hfault (hne op side)⟩
    rw [hfault] at hoff
    show Points text e.index e.fault
    rw [hfault]
    exact hoff

/-- The left operand brings its parentheses, and those around the whole do not count; and a text
that cannot go on with a parenthesis could have gone on before it. -/
theorem error_at_parenthesized_operand :
    (∃ err, parse "!( (true || false) contains 'x')" = .error err ∧ err.index = 3 ∧
      Points "!( (true || false) contains 'x')" err.index err.fault) ∧
    ∃ err, parse "(['a', )" = .error err ∧ err.index = 7 ∧ err.fault = .unexpectedToken ")" ∧
      ∃ w t, Generates (String.ofList ("(['a', )".toList.take err.index) ++ w) t := by
  have h : parse "!( (true || false) contains 'x')" = .error ⟨"!( (true || false) contains 'x')", 3,
      .invalidOperand (.comparison .contains) .left⟩ := by decide +kernel
  have h' : parse "(['a', )" = .error ⟨"(['a', )", 7, .unexpectedToken ")"⟩ := by decide +kernel
  refine ⟨⟨_, h, rfl, (error_at_first_dead_end _ _ h).2.1⟩, _, h', rfl, rfl, ?_⟩
  obtain ⟨w, t, hg, -⟩ := (error_at_first_dead_end _ _ h').2.2 (by simp)
  exact ⟨w, t, hg⟩

end Scaffold.Braced
