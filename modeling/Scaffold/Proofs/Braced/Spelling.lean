import Scaffold.Proofs.Name
import Scaffold.Proofs.Braced.Grammar

/-!
# The lexer cuts a text as the grammar spells it

The lexer looks at the phase of the machine to tell `!` from `!=`. `State.run_eq_ok_iff` takes it
out of the picture: a run succeeds exactly when some spelling of the text is accepted token by token
(`State.feed`). A token that the machine can take next is always the one that the lexer finds.
-/

namespace Scaffold.Braced

/-! ### Tokens -/

section Token

variable {operandDue : Bool} {q : Char} {t : Token} {word w cs rest : List Char}

theorem eq_append_of_after? (h : after? word cs = some rest) : cs = word ++ rest := by
  induction word generalizing cs with
  | nil => simpa [after?] using h
  | cons c word ih =>
    cases cs with
    | nil => simp [after?] at h
    | cons d cs =>
      simp only [after?] at h
      split at h
      · next hcd => rw [hcd, ih h]; rfl
      · cases h

theorem spells_of_stringAt (hq : q = '\'' ∨ q = '"') (h : stringAt q cs = some (t, rest)) :
    ∃ w, Spells t w ∧ q :: cs = w ++ rest := by
  unfold stringAt at h
  split at h
  · cases h
  · next c r hr =>
    simp only [Option.some.injEq, Prod.mk.injEq] at h
    obtain ⟨rfl, rfl⟩ := h
    have hc : c = q := by
      have hne : cs.dropWhile (· ≠ q) ≠ [] := by rw [hr]; simp
      have := List.head_dropWhile_not (· ≠ q) hne
      simpa only [hr, List.head_cons, decide_eq_false_iff_not, ne_eq, Decidable.not_not] using this
    refine ⟨_, .string hq ?_, ?_⟩
    · rw [String.toList_ofList]
      intro hm
      have := List.all_eq_true.1 List.all_takeWhile q hm
      simp at this
    · rw [String.toList_ofList, List.cons_append, List.append_assoc, List.singleton_append, ← hc,
        ← hr, hc, List.takeWhile_append_dropWhile]

theorem spells_of_referenceAt (h : referenceAt cs = some (t, rest)) :
    ∃ w, Spells t w ∧ '$' :: cs = w ++ rest := by
  unfold referenceAt at h
  split at h
  · next cs =>
    simp only at h
    split at h
    · next r hr =>
      split at h
      · cases h
      · next hne =>
        simp only [Option.some.injEq, Prod.mk.injEq] at h
        obtain ⟨rfl, rfl⟩ := h
        refine ⟨_, .reference (Name.isName_takeWhile (by simpa using hne)), ?_⟩
        rw [String.toList_ofList, List.cons_append, List.cons_append, List.append_assoc,
          List.singleton_append, ← hr, List.takeWhile_append_dropWhile]
    · cases h
  · cases h

theorem spells_of_mem_fixedTokens (h : t ∈ fixedTokens operandDue) : Spells t t.chars := by
  cases t with
  | reference name => cases operandDue <;> simp [fixedTokens] at h
  | string q text => cases operandDue <;> simp [fixedTokens] at h
  | _ => constructor

theorem spells_of_tokenAt (h : tokenAt operandDue cs = some (t, rest)) :
    ∃ w, Spells t w ∧ cs = w ++ rest := by
  cases cs with
  | nil => cases h
  | cons c cs =>
    simp only [tokenAt] at h
    split at h
    · next hc => rw [hc]; exact spells_of_referenceAt h
    · split at h
      · next hc => exact spells_of_stringAt hc h
      · obtain ⟨u, hu, h⟩ := List.exists_of_findSome?_eq_some h
        simp only [Option.map_eq_some_iff, Prod.mk.injEq] at h
        obtain ⟨r, hr, rfl, rfl⟩ := h
        exact ⟨_, spells_of_mem_fixedTokens hu, eq_append_of_after? hr⟩

/-- The tokens that are told apart by what the machine waits for. -/
def Token.Due (operandDue : Bool) : Token → Prop
  | bang => operandDue = .true
  | notEqual => operandDue = .false
  | _ => True

theorem stringAt_of_not_mem {text : String} (h : q ∉ text.toList) (rest : List Char) :
    stringAt q (text.toList ++ q :: rest) = some (.string q text, rest) := by
  have hall : ∀ c ∈ text.toList, decide (c ≠ q) = true := fun c hc => by
    simp only [decide_eq_true_eq]
    rintro rfl
    exact h hc
  simp only [stringAt, List.dropWhile_append_of_pos hall, List.takeWhile_append_of_pos hall]
  simp

theorem referenceAt_of_isName {name : String} (h : Name.IsName name) (rest : List Char) :
    referenceAt ('\x7b' :: (name.toList ++ '\x7d' :: rest)) = some (.reference name, rest) := by
  have hbrace : Name.isChar '\x7d' = false := by decide
  simp only [referenceAt, List.dropWhile_append_of_pos h.2, List.takeWhile_append_of_pos h.2]
  simp [hbrace, h.1]

theorem tokenAt_of_spells (hw : Spells t w) (ht : t.Due operandDue) (rest : List Char) :
    tokenAt operandDue (w ++ rest) = some (t, rest) := by
  cases hw with
  | reference h =>
    have := referenceAt_of_isName h rest
    simpa [tokenAt] using this
  | @string q text hq h =>
    have := stringAt_of_not_mem h rest
    rcases hq with rfl | rfl <;> simpa [tokenAt] using this
  | bang => cases ht; simp [tokenAt, fixedTokens, after?, Token.chars]
  | notEqual => cases ht; simp [tokenAt, fixedTokens, after?, Token.chars]
  | _ => cases operandDue <;> simp [tokenAt, fixedTokens, after?, Token.chars]

theorem Spells.head_not_blank (hw : Spells t w) : ∃ c w', w = c :: w' ∧ isBlank c = .false := by
  cases hw with
  | string hq _ => rcases hq with rfl | rfl <;> exact ⟨_, _, rfl, by decide⟩
  | _ => exact ⟨_, _, rfl, by decide⟩

end Token

/-! ### Texts -/

namespace State

variable {st st' : State} {i : Nat} {t : Token} {tree : Tree} {ts us : List Located}
  {cs rest : List Char} {e : Fault.Located}

/-- The state after a row of tokens, or none when one of them cannot stand there. -/
def feed (st : State) (ts : List Located) : Option State :=
  ts.foldlM (fun st t => st.step? t.token t.index) st

@[simp] theorem feed_nil (st : State) : st.feed [] = some st := rfl

theorem feed_cons (st : State) (t : Located) (ts : List Located) :
    st.feed (t :: ts) = (st.step? t.token t.index).bind (·.feed ts) := rfl

theorem feed_append (st : State) (ts us : List Located) :
    st.feed (ts ++ us) = (st.feed ts).bind (·.feed us) :=
  List.foldlM_append

theorem due_of_step? (h : st.step? t i = some st') : t.Due st.operandDue := by
  obtain ⟨frames, phase⟩ := st
  cases t with
  | bang =>
    cases phase with
    | operand => rfl
    | operator last => simp [step?, Token.binary?] at h
    | arrayStart _ | arrayItem _ _ | arrayComma _ _ => cases h
  | notEqual =>
    cases phase with
    | operand => simp [step?, Token.leaf?] at h
    | _ => rfl
  | _ => trivial

theorem run_blank {c : Char} (hc : isBlank c = true) : st.run i (c :: cs) = st.run (i + 1) cs := by
  rw [run, if_pos hc]

theorem run_token {w : List Char} (hw : Spells t w) (hs : st.step? t i = some st') :
    st.run i (w ++ rest) = st'.run (i + w.length) rest := by
  have ht := tokenAt_of_spells hw (due_of_step? hs) rest
  obtain ⟨c, w', rfl, hc⟩ := hw.head_not_blank
  rw [List.cons_append] at ht ⊢
  rw [run, if_neg (by simp [hc])]
  split
  · next hnone => rw [ht] at hnone; cases hnone
  · next t' rest' hsome =>
    rw [ht] at hsome
    cases hsome
    split
    · next hnone => rw [hs] at hnone; cases hnone
    · next st₁ hsome =>
      rw [hs] at hsome
      cases hsome
      congr 1
      simp only [List.length_cons, List.length_append]
      omega

/-- What a run reads is a spelling that the machine accepts. -/
theorem spelled_of_run (h : st.run i cs = .ok tree) :
    ∃ ts st', Spelled i ts cs ∧ st.feed ts = some st' ∧ st'.finish? = some tree := by
  fun_induction run st i cs with
  | case1 st i tree' hfin => cases h; exact ⟨[], st, .nil, rfl, hfin⟩
  | case2 => cases h
  | case3 st i c cs hc ih =>
    obtain ⟨ts, st', hsp, hf, hfin⟩ := ih h
    exact ⟨ts, st', .blank hc hsp, hf, hfin⟩
  | case4 => cases h
  | case5 => cases h
  | case6 st i c cs hc t rest ht st₁ hs ih =>
    obtain ⟨ts, st', hsp, hf, hfin⟩ := ih h
    obtain ⟨w, hw, hcs⟩ := spells_of_tokenAt ht
    rw [hcs, List.length_append, Nat.add_sub_cancel] at hsp
    refine ⟨⟨t, i⟩ :: ts, st', ?_, ?_, hfin⟩
    · rw [hcs]; exact .token hw hsp
    · rw [feed_cons, hs]; exact hf

theorem run_of_spelled (hsp : Spelled i ts cs) (hf : st.feed ts = some st')
    (hfin : st'.finish? = some tree) : st.run i cs = .ok tree := by
  induction hsp generalizing st with
  | nil =>
    rw [feed_nil, Option.some.injEq] at hf
    rw [run, hf, hfin]
  | blank hc _ ih => rw [run_blank hc, ih hf]
  | token hw _ ih =>
    rw [feed_cons, Option.bind_eq_some_iff] at hf
    obtain ⟨st₁, hs, hf⟩ := hf
    rw [run_token hw hs, ih hf]

theorem run_eq_ok_iff : st.run i cs = .ok tree ↔
    ∃ ts st', Spelled i ts cs ∧ st.feed ts = some st' ∧ st'.finish? = some tree :=
  ⟨spelled_of_run, fun ⟨_, _, hsp, hf, hfin⟩ => run_of_spelled hsp hf hfin⟩

theorem not_invalidOperand_of_run (h : st.run i cs = .error e) (op : Operator) (side : Side) :
    e.fault ≠ .invalidOperand op side := by
  fun_induction run st i cs with
  | case1 => cases h
  | case2 => cases h; simp
  | case3 st i c cs hc ih => exact ih h
  | case4 => cases h; simp
  | case5 => cases h; simp
  | case6 st i c cs hc t rest ht st₁ hs ih => exact ih h

end State

end Scaffold.Braced
