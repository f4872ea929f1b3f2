import Scaffold.Proofs.Braced.Frames

/-!
# The machine accepts what the grammar derives

Tokens that derive `t` may leave frames open, so the state after them is described by what a
reduction makes of it: as if `t` itself had stood there as one operand. `Derives.accepted` says this
for every level, over any frames that are loose enough.
-/

namespace Scaffold.Braced

variable {ts ls rs : List Located} {items : List String} {t l r : Tree} {a : Level}

theorem reduce_of_floor_le {fs : List Frame} {level : Nat} (h : floor fs ≤ level) (hmax : level ≤ 3)
    (o : Operand) : reduce level o fs = (o, fs) := by
  match fs with
  | [] => rfl
  | .paren _ :: _ => rfl
  | .not _ :: _ => simp only [floor] at h; omega
  | .binary op _ _ :: _ =>
    simp only [floor] at h
    rw [reduce, if_neg (by omega)]

/-- The machine takes `ts` over frames `fs` as it would take an operand `t` of level `a`. -/
def Accepts (a : Level) (ts : List Located) (t : Tree) : Prop :=
  ∀ fs, floor fs ≤ a.rank → ∃ fs' last, State.feed ⟨fs, .operand⟩ ts = some ⟨fs', .operator last⟩ ∧
    ∀ level ≤ a.rank, reduce level last fs' = reduce level ⟨t, first ts⟩ fs

theorem Accepts.looser (h : Accepts a ts t) : Accepts a.looser ts t := by
  intro fs hfs
  rw [a.rank_looser] at hfs
  obtain ⟨fs', last, hf, hred⟩ := h fs (by omega)
  refine ⟨fs', last, hf, fun level hlevel => hred level ?_⟩
  rw [a.rank_looser] at hlevel
  omega

theorem Accepts.binary (op : Infix) (i : Nat) (hl : Accepts op.outer ls l)
    (hr : Accepts op.inner rs r) (hne : ls ≠ []) :
    Accepts op.outer (ls ++ ⟨op.token, i⟩ :: rs) (.binary op (first ls) l r) := by
  intro fs hfs
  rw [op.rank_outer] at hfs
  obtain ⟨fs₁, last₁, hf₁, hred₁⟩ := hl fs (by simpa using hfs)
  have hleft : reduce op.level last₁ fs₁ = (⟨l, first ls⟩, fs) := by
    rw [hred₁ _ (by simp), reduce_of_floor_le hfs op.level_le_three]
  obtain ⟨fs₂, last₂, hf₂, hred₂⟩ := hr (.binary op (first ls) l :: fs) (by simp [floor])
  refine ⟨fs₂, last₂, ?_, fun level hlevel => ?_⟩
  · rw [State.feed_append, hf₁, Option.bind_some, State.feed_cons, State.step?_binary hleft]
    exact hf₂
  · rw [op.rank_outer] at hlevel
    rw [hred₂ level (by simp; omega), reduce, if_pos hlevel, first_append hne]

theorem Accepts.not (i : Nat) (h : Accepts .unary ts t) :
    Accepts .unary (⟨.bang, i⟩ :: ts) (.not t) := by
  intro fs hfs
  obtain ⟨fs', last, hf, hred⟩ := h (.not i :: fs) (Nat.le_refl _)
  exact ⟨fs', last, hf, fun level hlevel => by rw [hred level hlevel]; rfl⟩

theorem Accepts.paren (i j : Nat) (h : Accepts .or ts t) :
    Accepts .atom (⟨.opening, i⟩ :: (ts ++ [⟨.closing, j⟩])) t := by
  intro fs hfs
  obtain ⟨fs', last, hf, hred⟩ := h (.paren i :: fs) (Nat.zero_le _)
  refine ⟨fs, ⟨t, i⟩, ?_, fun level hlevel => rfl⟩
  have hclose : State.step? ⟨fs', .operator last⟩ .closing j = some ⟨fs, .operator ⟨t, i⟩⟩ := by
    simp only [State.step?, hred 0 (Nat.zero_le _)]
    rfl
  rw [State.feed_cons]
  show State.feed ⟨.paren i :: fs, .operand⟩ (ts ++ [⟨.closing, j⟩]) = _
  rw [State.feed_append, hf, Option.bind_some, State.feed_cons, hclose]
  rfl

theorem Items.feed (h : Items ts items) {fs : List Frame} {phase : Phase} {i : Nat}
    {before : List String} (hphase : ∀ q text j, State.step? ⟨fs, phase⟩ (.string q text) j =
      some ⟨fs, .arrayItem i (text :: before)⟩) :
    State.feed ⟨fs, phase⟩ ts = some ⟨fs, .arrayItem i (items.reverse ++ before)⟩ := by
  induction h generalizing phase before with
  | single q text j => rw [State.feed_cons, hphase]; rfl
  | @cons q text j k ts items h ih =>
    rw [State.feed_cons, hphase, Option.bind_some, State.feed_cons]
    show State.feed ⟨fs, .arrayComma i (text :: before)⟩ ts = _
    rw [ih fun _ _ _ => rfl, List.reverse_cons, List.append_assoc]
    rfl

theorem Derives.accepted (h : Derives a ts t) : Accepts a ts t := by
  induction h with
  | ofAnd _ ih | ofEquality _ ih | ofHolding _ ih | ofUnary _ ih | ofAtom _ ih => exact ih.looser
  | or i hl _ ihl ihr => exact .binary .or i ihl ihr hl.ne_nil
  | and i hl _ ihl ihr => exact .binary .and i ihl ihr hl.ne_nil
  | equal i hl _ ihl ihr => exact .binary .equal i ihl ihr hl.ne_nil
  | notEqual i hl _ ihl ihr => exact .binary .notEqual i ihl ihr hl.ne_nil
  | contains i hl _ ihl ihr => exact .binary .contains i ihl ihr hl.ne_nil
  | not i _ ih => exact ih.not i
  | paren i j _ ih => exact ih.paren i j
  | reference _ _ | string _ _ _ | true _ | false _ | emptyArray _ _ =>
    exact fun fs _ => ⟨fs, _, rfl, fun _ _ => rfl⟩
  | @array i j ts items h =>
    intro fs _
    refine ⟨fs, ⟨.leaf (.array items), i⟩, ?_, fun _ _ => rfl⟩
    rw [State.feed_cons]
    show State.feed ⟨fs, .arrayStart i⟩ (ts ++ [⟨.closeBracket, j⟩]) = _
    rw [State.feed_append, h.feed fun _ _ _ => rfl, List.append_nil]
    simp [State.feed_cons, State.step?]

/-- A whole row that derives a tree leads from the start to that tree. -/
theorem Derives.feed (h : Derives .or ts t) :
    ∃ st, State.start.feed ts = some st ∧ st.finish? = some t := by
  obtain ⟨fs, last, hf, hred⟩ := h.accepted [] (Nat.zero_le _)
  refine ⟨_, hf, ?_⟩
  simp only [State.finish?, hred 0 (Nat.zero_le _)]
  rfl

end Scaffold.Braced
