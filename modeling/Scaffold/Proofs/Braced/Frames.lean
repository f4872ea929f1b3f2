import Scaffold.Proofs.Braced.Spelling

/-!
# The invariant of the open frames

`State.Reads st ts`: the frames of `st`, from the outermost one inwards, and then its phase are the
tokens `ts` that were consumed so far. A binary frame keeps a left operand of its own level, and
lies on frames that bind more loosely (`floor`); so an operand that is tight enough for the
innermost frame can be given to it, and the result is tight enough for the next one. `Frames.reduce`
is that argument; `State.Reads.feed` carries the invariant along a run.
-/

namespace Scaffold.Braced

/-- How tight an operand has to be for the innermost frame. -/
def floor : List Frame → Nat
  | [] => 0
  | .paren _ :: _ => 0
  | .not _ :: _ => 4
  | .binary op _ _ :: _ => op.level + 1

theorem floor_le_four (fs : List Frame) : floor fs ≤ 4 := by
  match fs with
  | [] | .paren _ :: _ | .not _ :: _ => simp [floor]
  | .binary op _ _ :: _ => have := op.level_le_three; simp only [floor]; omega

/-- The open frames, innermost first, have read the tokens `ts`. -/
inductive Frames : List Frame → (ts : List Located) → Prop
  | nil : Frames [] []
  | paren (i : Nat) {fs : List Frame} {ts : List Located} (h : Frames fs ts) :
      Frames (.paren i :: fs) (ts ++ [⟨.opening, i⟩])
  | not (i : Nat) {fs : List Frame} {ts : List Located} (h : Frames fs ts) :
      Frames (.not i :: fs) (ts ++ [⟨.bang, i⟩])
  | binary (op : Infix) (i : Nat) {fs : List Frame} {ts ls : List Located} {l : Tree}
      (h : Frames fs ts) (hfloor : floor fs ≤ op.level) (hl : Derives op.outer ls l) :
      Frames (.binary op (first ls) l :: fs) (ts ++ (ls ++ [⟨op.token, i⟩]))

/-- The tokens `ts` are a finished operand of level `a`. -/
structure Operand.Holds (o : Operand) (a : Level) (ts : List Located) : Prop where
  tree : Derives a ts o.tree
  start : o.start = first ts

/-- Giving frames their right operands only moves the line between frames and operand. -/
theorem Frames.reduce {fs fs' : List Frame} {ts us : List Located} {last o : Operand} {a : Level}
    {level : Nat} (h : Frames fs ts) (ho : last.Holds a us) (hfloor : floor fs ≤ a.rank)
    (hlevel : level ≤ a.rank) (hmax : level ≤ 4) (hr : reduce level last fs = (o, fs')) :
    ∃ ts' us' b, ts ++ us = ts' ++ us' ∧ Frames fs' ts' ∧ o.Holds b us' ∧ level ≤ b.rank ∧
      floor fs' ≤ level := by
  -- the frames are closed from the inside out, each becoming the operand of the next
  induction h generalizing us last a with
  | nil =>
    cases hr
    exact ⟨[], us, a, rfl, .nil, ho, hlevel, Nat.zero_le _⟩
  | @paren i fs ts h ih =>
    cases hr
    exact ⟨_, us, a, rfl, .paren i h, ho, hlevel, Nat.zero_le _⟩
  | @not i fs ts h ih =>
    have hnot : Operand.Holds ⟨.not last.tree, i⟩ .unary (⟨.bang, i⟩ :: us) :=
      ⟨.not i (ho.tree.lift hfloor), rfl⟩
    rw [List.append_assoc]
    exact ih hnot (floor_le_four fs) hmax hr
  | @binary op i fs ts ls l h hfl hl ih =>
    rw [Braced.reduce] at hr
    split at hr
    · next hle =>
      have hd : Derives op.inner us last.tree := ho.tree.lift (by simpa [floor] using hfloor)
      have hnode : Operand.Holds ⟨.binary op (first ls) l last.tree, first ls⟩ op.outer
          (ls ++ ⟨op.token, i⟩ :: us) :=
        ⟨.binary op i hl hd, (first_append hl.ne_nil).symm⟩
      rw [List.append_assoc, List.append_assoc]
      exact ih hnode (by simpa using hfl) (by simpa using hle) hr
    · next hlt =>
      cases hr
      exact ⟨_, us, a, rfl, .binary op i h hfl hl, ho, hlevel, by simp only [floor]; omega⟩

/-! ### The machine -/

/-- What the phase holds of the tokens that no frame has. -/
inductive Phase.Holds : Phase → (ts : List Located) → Prop
  | operand : Holds .operand []
  | operator {o : Operand} {ts : List Located} (h : o.Holds .atom ts) : Holds (.operator o) ts
  | arrayStart (i : Nat) : Holds (.arrayStart i) [⟨.openBracket, i⟩]
  | arrayItem (i : Nat) {ts : List Located} {items : List String} (h : Items ts items) :
      Holds (.arrayItem i items.reverse) (⟨.openBracket, i⟩ :: ts)
  | arrayComma (i j : Nat) {ts : List Located} {items : List String} (h : Items ts items) :
      Holds (.arrayComma i items.reverse) (⟨.openBracket, i⟩ :: (ts ++ [⟨.comma, j⟩]))

namespace State

theorem step?_binary {op : Infix} {fs fs' : List Frame} {last o : Operand}
    (hr : reduce op.level last fs = (o, fs')) (i : Nat) :
    State.step? ⟨fs, .operator last⟩ op.token i =
      some ⟨.binary op o.start o.tree :: fs', .operand⟩ := by
  cases op <;> simp only [step?, Infix.token, Token.binary?, hr]

/-- The machine is in state `st` once it has consumed the tokens `ts`. -/
def Reads (st : State) (ts : List Located) : Prop :=
  ∃ ts₁ ts₂, ts = ts₁ ++ ts₂ ∧ Frames st.frames ts₁ ∧ st.phase.Holds ts₂

namespace Reads

variable {st st' : State} {ts us : List Located} {t : Token} {i : Nat} {tree : Tree}

theorem start : State.start.Reads [] := ⟨[], [], rfl, .nil, .operand⟩

theorem reduce {fs fs' : List Frame} {o last : Operand} {a : Level}
    (h : State.Reads ⟨fs, .operator last⟩ ts) (hmax : a.rank ≤ 4)
    (hr : Braced.reduce a.rank last fs = (o, fs')) :
    ∃ ts₁ ts₂, ts = ts₁ ++ ts₂ ∧ Frames fs' ts₁ ∧ o.Holds a ts₂ ∧ floor fs' ≤ a.rank := by
  obtain ⟨ts₁, ts₂, rfl, hf, hp⟩ := h
  cases hp with
  | operator ho =>
    have h5 : (4 : Nat) ≤ Level.atom.rank := by decide
    obtain ⟨us₁, us₂, b, heq, hf', ho', hb, hfloor⟩ :=
      hf.reduce ho (Nat.le_trans (floor_le_four fs) h5) (Nat.le_trans hmax h5) hmax hr
    exact ⟨us₁, us₂, heq, hf', ⟨ho'.tree.lift hb, ho'.start⟩, hfloor⟩

theorem operand {fs : List Frame} (h : Frames fs ts)
    (hs : State.step? ⟨fs, .operand⟩ t i = some st') : st'.Reads (ts ++ [⟨t, i⟩]) := by
  have hleaf : ∀ {l : Leaf}, Derives .atom [⟨t, i⟩] (.leaf l) →
      State.Reads ⟨fs, .operator ⟨.leaf l, i⟩⟩ (ts ++ [⟨t, i⟩]) := fun hd =>
    ⟨ts, _, rfl, h, .operator ⟨hd, rfl⟩⟩
  cases t with
  | opening => cases hs; exact ⟨_, [], by simp, .paren i h, .operand⟩
  | bang => cases hs; exact ⟨_, [], by simp, .not i h, .operand⟩
  | openBracket => cases hs; exact ⟨ts, _, rfl, h, .arrayStart i⟩
  | reference name => cases hs; exact hleaf (.reference name i)
  | string q text => cases hs; exact hleaf (.string q text i)
  | true => cases hs; exact hleaf (.true i)
  | false => cases hs; exact hleaf (.false i)
  | _ => cases hs

/-- A token after an operand. -/
theorem operator {fs : List Frame} {last : Operand} (h : State.Reads ⟨fs, .operator last⟩ ts)
    (hs : State.step? ⟨fs, .operator last⟩ t i = some st') : st'.Reads (ts ++ [⟨t, i⟩]) := by
  by_cases hc : t = .closing
  · subst hc
    simp only [step?] at hs
    split at hs
    · next inner j fs' hr =>
      cases hs
      obtain ⟨ts₁, ts₂, rfl, hf, ho, -⟩ := h.reduce (a := .or) (by decide) hr
      cases hf with
      | paren _ hf =>
        have hp : Operand.Holds ⟨inner.tree, j⟩ .atom _ := ⟨.paren j i ho.tree, rfl⟩
        exact ⟨_, _, by simp, hf, .operator hp⟩
    · cases hs
  · cases hb : t.binary? with
    | none => cases t <;> simp_all [step?]
    | some op =>
      obtain rfl := Token.eq_of_binary? hb
      obtain ⟨⟨o, fs'⟩, hr⟩ : ∃ p, Braced.reduce op.level last fs = p := ⟨_, rfl⟩
      rw [step?_binary hr, Option.some.injEq] at hs
      subst hs
      rw [← op.rank_outer] at hr
      have hmax : op.outer.rank ≤ 4 := by have := op.level_le_three; rw [op.rank_outer]; omega
      -- the frames that bind tighter are closed, and what they make is the left operand
      obtain ⟨ts₁, ts₂, rfl, hf, ho, hfloor⟩ := h.reduce hmax hr
      refine ⟨ts₁ ++ (ts₂ ++ [⟨op.token, i⟩]), [], by simp, ?_, .operand⟩
      rw [ho.start]
      exact .binary op i hf (by simpa using hfloor) ho.tree

/-- One token. -/
theorem step (h : st.Reads ts) (hs : st.step? t i = some st') : st'.Reads (ts ++ [⟨t, i⟩]) := by
  obtain ⟨fs, phase⟩ := st
  obtain ⟨ts₁, ts₂, rfl, hf, hp⟩ := id h
  cases hp with
  | operand => rw [List.append_nil]; exact operand hf hs
  | operator ho => exact operator h hs
  | arrayStart j =>
    cases t with
    | string q text =>
      cases hs
      have hp := Phase.Holds.arrayItem j (.single q text i)
      exact ⟨ts₁, _, List.append_assoc .., hf, hp⟩
    | closeBracket =>
      cases hs
      exact ⟨ts₁, _, List.append_assoc .., hf, .operator ⟨.emptyArray j i, rfl⟩⟩
    | _ => cases hs
  | arrayItem j hi =>
    cases t with
    | comma => cases hs; exact ⟨ts₁, _, List.append_assoc .., hf, .arrayComma j i hi⟩
    | closeBracket =>
      cases hs
      rw [List.reverse_reverse]
      exact ⟨ts₁, _, List.append_assoc .., hf, .operator ⟨.array j i hi, rfl⟩⟩
    | _ => cases hs
  | arrayComma j k hi =>
    cases t with
    | string q text =>
      cases hs
      have hp := Phase.Holds.arrayItem j (hi.snoc q text i k)
      rw [List.reverse_append] at hp
      exact ⟨ts₁, _, by simp, hf, hp⟩
    | _ => cases hs

theorem feed (h : st.Reads ts) (hf : st.feed us = some st') : st'.Reads (ts ++ us) := by
  induction us generalizing st ts with
  | nil => cases hf; simpa using h
  | cons u us ih =>
    rw [feed_cons, Option.bind_eq_some_iff] at hf
    obtain ⟨st₁, hs, hf⟩ := hf
    rw [List.append_cons]
    exact ih (h.step hs) hf

theorem finish (h : st.Reads ts) (hf : st.finish? = some tree) : Derives .or ts tree := by
  obtain ⟨fs, phase⟩ := st
  cases phase with
  | operator last =>
    simp only [finish?] at hf
    split at hf
    · next whole hr =>
      cases hf
      obtain ⟨ts₁, ts₂, rfl, hf, ho, -⟩ := h.reduce (a := .or) (by decide) hr
      cases hf
      exact ho.tree
    · cases hf
  | _ => cases hf

end Reads

end State

end Scaffold.Braced
