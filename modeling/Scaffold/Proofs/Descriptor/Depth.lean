import Scaffold.Proofs.Descriptor.Frames

/-!
# Reading with a limit of depth

A limit only restricts: while no element starts deeper than the limit, the reader takes the same
steps with the limit and without it (`run_eq_of_depths`), and where it accepts all events under the
limit, no element has started deeper (`depths_le_of_run`). How deep an element starts is told from
the events alone (`startDepths`), by counting starts and ends.
-/

namespace Scaffold.Descriptor

open Markup (Event Attributes)

/-- How deep each element starts when `n` elements are open before the events. -/
def depthsFrom (n : Nat) : List Event → List Nat
  | [] => []
  | .start _ _ :: es => (n + 1) :: depthsFrom (n + 1) es
  | .text _ :: es => depthsFrom n es
  | .finish _ :: es => depthsFrom (n - 1) es

/-- How deep each element of a document starts; the root is at depth one. -/
def startDepths (es : List Event) : List Nat := depthsFrom 0 es

variable {st st' : ReaderState} {limit : Option Int} {d : Int} {e : Event} {es : List Event}

/-! ### One event -/

theorem ReaderState.length_text (st : ReaderState) (s : String) :
    (st.text s).frames.length = st.frames.length := by
  obtain ⟨root, frames⟩ := st
  cases frames with
  | nil => rfl
  | cons f fs => rw [text_cons]; rfl

theorem ReaderState.length_resume (st : ReaderState) (f : Field) (r : Option Item) :
    (st.resume f r).frames.length = st.frames.length := by
  obtain ⟨root, frames⟩ := st
  cases r with
  | none => rfl
  | some item =>
    cases frames with
    | nil => cases item <;> rfl
    | cons g gs => rfl

theorem mem_depthsFrom_cons_iff (hst : st.step limit e = .ok st') {n : Nat} :
    n ∈ depthsFrom st.frames.length (e :: es) ↔
      (∃ name attributes, e = .start name attributes ∧ n = st.frames.length + 1) ∨
        n ∈ depthsFrom st'.frames.length es := by
  cases e with
  | start name attributes =>
    obtain ⟨rule, scalars, -, -, -, -, rfl⟩ := ReaderState.start_eq_ok_iff.1 hst
    simp [depthsFrom]
  | text s =>
    cases hst
    simp [depthsFrom, ReaderState.length_text]
  | finish name =>
    obtain ⟨f, fs, r, hfs, -, -, rfl⟩ := ReaderState.finish_eq_ok_iff.1 hst
    simp [depthsFrom, ReaderState.length_resume, hfs]

theorem ReaderState.filter_limit_eq_none_iff :
    ((some d).filter fun limit : Int => limit < st.frames.length + 1) = none ↔
      ((st.frames.length + 1 : Nat) : Int) ≤ d := by
  rw [Option.filter_eq_none_iff]
  constructor
  · intro h
    have hd := h d rfl
    simp only [decide_eq_true_eq] at hd
    omega
  · rintro h _ ⟨⟩
    simp only [decide_eq_true_eq]
    omega

theorem ReaderState.step_limit_eq (h : ∀ n ∈ depthsFrom st.frames.length (e :: es), (n : Int) ≤ d) :
    st.step (some d) e = st.step none e := by
  cases e with
  | start name attributes =>
    have hfilter := filter_limit_eq_none_iff.2 (h _ List.mem_cons_self)
    simp only [step, start, hfilter]
    rfl
  | text s => rfl
  | finish name => rfl

/-! ### All events -/

theorem run_eq_of_depths (h : ∀ n ∈ depthsFrom st.frames.length es, (n : Int) ≤ d) :
    es.foldlM (ReaderState.step (some d)) st = es.foldlM (ReaderState.step none) st := by
  induction es generalizing st with
  | nil => rfl
  | cons e es ih =>
    rw [List.foldlM_cons, List.foldlM_cons, ReaderState.step_limit_eq h]
    cases hst : st.step none e with
    | error err => rfl
    | ok st' => exact ih fun n hn => h n ((mem_depthsFrom_cons_iff hst).2 (.inr hn))

theorem depths_le_of_run (h : es.foldlM (ReaderState.step (some d)) st = .ok st') :
    ∀ n ∈ depthsFrom st.frames.length es, (n : Int) ≤ d := by
  induction es generalizing st with
  | nil => simp [depthsFrom]
  | cons e es ih =>
    rw [List.foldlM_cons, bind_eq_ok] at h
    obtain ⟨st₁, hst, hrun⟩ := h
    intro n hn
    rcases (mem_depthsFrom_cons_iff hst).1 hn with ⟨name, attributes, rfl, rfl⟩ | hn
    · obtain ⟨rule, scalars, -, -, hlimit, -, -⟩ := ReaderState.start_eq_ok_iff.1 hst
      exact ReaderState.filter_limit_eq_none_iff.1 hlimit
    · exact ih hrun n hn

theorem read_eq_of_depths (h : ∀ n ∈ startDepths es, (n : Int) ≤ d) :
    read (some d) es = read none es := by
  have hrun : es.foldlM (ReaderState.step (some d)) {} = es.foldlM (ReaderState.step none) {} :=
    run_eq_of_depths h
  rw [read, read, hrun]

theorem depths_le_of_read {script : Node} (h : read (some d) es = .ok script) :
    ∀ n ∈ startDepths es, (n : Int) ≤ d := by
  obtain ⟨st, hrun, -⟩ := bind_eq_ok.1 h
  exact depths_le_of_run hrun

/-- A document is read with a limit exactly if it is read without one and no element starts deeper,
and then to the same root; and if none starts deeper, with the same error as well. So a higher limit
changes no root that has been read. -/
theorem limit_only_restricts (es : List Event) (d : Int) :
    (∀ script, read (some d) es = .ok script ↔
      read none es = .ok script ∧ ∀ n ∈ startDepths es, (n : Int) ≤ d) ∧
    ((∀ n ∈ startDepths es, (n : Int) ≤ d) → read (some d) es = read none es) ∧
    ∀ d' script, d ≤ d' → read (some d) es = .ok script → read (some d') es = .ok script := by
  refine ⟨fun script => ⟨fun h => ?_, fun ⟨h, hd⟩ => ?_⟩, read_eq_of_depths, ?_⟩
  · have hd := depths_le_of_read h
    exact ⟨(read_eq_of_depths hd).symm.trans h, hd⟩
  · exact (read_eq_of_depths hd).trans h
  · intro d' script hle h
    have hd := depths_le_of_read h
    have hd' : ∀ n ∈ startDepths es, (n : Int) ≤ d' := fun n hn =>
      Int.le_trans (hd n hn) hle
    rw [read_eq_of_depths hd', ← read_eq_of_depths hd]
    exact h

example : startDepths [.start "archetype-script" [], .start "step" [], .text "", .finish "step",
    .start "output" [], .start "model" []] = [1, 2, 2, 3] := rfl

end Scaffold.Descriptor
