import Scaffold.Proofs.Descriptor.Frames
import Scaffold.Proofs.Descriptor.Walk

/-!
# Trees that are read are regular

A node that is assembled has one slot for each declared field, and the nodes in its slots are among
its parts. The reader assembles every node, so it returns regular trees only, under any limit of
depth (`regular_of_read`).
-/

namespace Scaffold.Descriptor

open Markup (Event Attributes)

/-! ### Assembled nodes -/

section Assemble

variable {kind : Kind} {d : Declaration} {p : Parts} {slot : Slot} {n m : Node}

/-- The trees that an item holds are regular. -/
def Item.Regular (item : Item) : Prop := ∀ n ∈ item.nodes, n.Regular

theorem fill_cases (h : d.fill kind p = .ok slot) :
    (∃ s, slot = .scalar d.field s) ∨ slot = .child d.field (p.nodesFor d.field).head? ∨
      slot = .children d.field (p.nodesFor d.field) := by
  unfold Declaration.fill at h
  split at h
  · cases h; exact .inr (.inl rfl)
  · cases h; exact .inr (.inr rfl)
  all_goals
    repeat' split at h
    all_goals cases h
    all_goals exact .inl ⟨_, rfl⟩

theorem field_of_fill (h : d.fill kind p = .ok slot) : slot.field = d.field := by
  obtain ⟨s, rfl⟩ | rfl | rfl := fill_cases h <;> rfl

theorem exists_part_of_fill (h : d.fill kind p = .ok slot) {s : Address.Step}
    (hm : (s, m) ∈ slot.steps) : ∃ c ∈ p.items, m ∈ c.2.nodes := by
  obtain ⟨-, hm⟩ := Slot.mem_steps_iff.1 hm
  have hpart : m ∈ p.nodesFor d.field := by
    obtain ⟨v, rfl⟩ | rfl | rfl := fill_cases h
    · cases hm
    · cases hi : s.index with
      | none => exact List.mem_of_head? (by simpa [Slot.node?, hi] using hm)
      | some i => simp [Slot.node?, hi] at hm
    · cases hi : s.index with
      | none => simp [Slot.node?, hi] at hm
      | some i => exact List.mem_of_getElem? (by simpa [Slot.node?, hi] using hm)
  simp only [Parts.nodesFor, Parts.itemsFor, List.mem_flatMap, List.mem_map, List.mem_filter]
    at hpart
  obtain ⟨item, ⟨c, ⟨hc, -⟩, rfl⟩, hm⟩ := hpart
  exact ⟨c, hc, hm⟩

/-- What is assembled from regular trees is regular. -/
theorem Node.regular_of_assemble (h : Node.assemble kind p = .ok n)
    (hp : ∀ c ∈ p.items, c.2.Regular) : n.Regular := by
  unfold assemble at h
  split at h
  · cases h
  · obtain ⟨slots, hslots, h⟩ := bind_eq_ok.1 h
    cases h
    have hfill := mapM_eq_ok_iff.1 hslots
    refine .mk ?_ fun s m hm => ?_
    · have hfields : slots.map Slot.field = kind.schema.map (·.field) := by
        rw [← List.forall₂_eq_eq_eq, List.forall₂_map_left_iff, List.forall₂_map_right_iff]
        exact hfill.flip.imp fun slot d hd => field_of_fill hd
      show (slots.map Slot.field).Nodup
      rw [hfields]
      exact nodup_schema kind
    · obtain ⟨slot, hslot, hm⟩ := List.mem_flatMap.1 hm
      obtain ⟨d, hd⟩ := exists_forall₂_iff.1 ⟨_, hfill.flip⟩ slot hslot
      obtain ⟨c, hc, hm⟩ := exists_part_of_fill hd hm
      exact hp c hc m hm

theorem Item.regular_of_result {f : Frame} {path : String} {item : Item}
    (hf : ∀ c ∈ f.items, c.2.Regular) (h : f.result path = .ok (some item)) : item.Regular := by
  unfold Frame.result at h
  split at h
  · split at h <;> cases h
    simp [Item.Regular, Item.nodes]
  · obtain ⟨content, -, h⟩ := bind_eq_ok.1 h
    obtain ⟨n, hn, h⟩ := bind_eq_ok.1 h
    cases h
    have hreg := Node.regular_of_assemble (mapError_eq_ok.1 hn) hf
    simpa [Item.Regular, Item.nodes] using hreg
  · cases h
    simp [Item.Regular, Item.nodes]

end Assemble

/-! ### Trees that are read -/

/-- The trees in all frames and the root are regular. -/
structure ReaderState.Regular (st : ReaderState) : Prop where
  root : ∀ n, st.root = some n → n.Regular
  frames : ∀ f ∈ st.frames, ∀ c ∈ f.items, c.2.Regular

namespace ReaderState.Regular

variable {st st' : ReaderState} {limit : Option Int} {name : String}

theorem initial : Regular {} := ⟨by simp, by simp⟩

theorem start {attributes : Attributes} (h : st.Regular)
    (hst : st.start limit name attributes = .ok st') : st'.Regular := by
  obtain ⟨rule, scalars, -, -, -, -, rfl⟩ := start_eq_ok_iff.1 hst
  refine ⟨h.root, List.forall_mem_cons.2 ⟨?_, h.frames⟩⟩
  simp [opened]

theorem text (h : st.Regular) (s : String) : (st.text s).Regular := by
  obtain ⟨root, frames⟩ := st
  cases frames with
  | nil => exact h
  | cons f fs =>
    rw [text_cons]
    have hf := h.frames f List.mem_cons_self
    exact ⟨h.root, List.forall_mem_cons.2 ⟨by simpa using hf, fun g hg =>
      h.frames g (List.mem_cons_of_mem _ hg)⟩⟩

theorem attach (h : st.Regular) (field : Field) {item : Item} (hitem : item.Regular) :
    (st.attach field item).Regular := by
  obtain ⟨root, frames⟩ := st
  cases frames with
  | nil =>
    cases item with
    | node n =>
      refine ⟨fun m hm => ?_, h.frames⟩
      cases hm
      exact hitem n List.mem_cons_self
    | text _ | texts _ => exact h
  | cons f fs =>
    have hf := h.frames f List.mem_cons_self
    refine ⟨h.root, List.forall_mem_cons.2 ⟨?_, fun g hg => h.frames g (List.mem_cons_of_mem _ hg)⟩⟩
    exact List.forall_mem_append.2 ⟨hf, by simpa using hitem⟩

theorem finish (h : st.Regular) (hst : st.finish name = .ok st') : st'.Regular := by
  obtain ⟨f, fs, r, hfs, -, hr, rfl⟩ := finish_eq_ok_iff.1 hst
  have hframes := h.frames
  rw [hfs, List.forall_mem_cons] at hframes
  have hbelow : Regular ⟨st.root, fs⟩ := ⟨h.root, hframes.2⟩
  cases r with
  | none => exact hbelow
  | some item => exact hbelow.attach f.field (Item.regular_of_result hframes.1 hr)

theorem step {e : Event} (h : st.Regular) (hst : st.step limit e = .ok st') : st'.Regular := by
  cases e with
  | start name attributes => exact h.start hst
  | text s => cases hst; exact h.text s
  | finish name => exact h.finish hst

theorem run {es : List Event} (hst : es.foldlM (ReaderState.step limit) {} = .ok st) : st.Regular :=
  run_induction (P := fun st _ => st.Regular) initial (fun _ _ _ _ h hst => h.step hst) hst

end ReaderState.Regular

theorem regular_of_read {r : Reader} {feed : Feed} {script : Node}
    (h : (r.read feed).1 = .ok script) : script.Regular := by
  unfold Reader.read at h
  split at h
  · cases h
  · obtain ⟨st, hrun, h⟩ := bind_eq_ok.1 h
    have hst : st.Regular := ReaderState.Regular.run hrun
    split at h
    · cases h
    · unfold ReaderState.result at h
      split at h <;> cases h
      next hroot => exact hst.root _ hroot

end Scaffold.Descriptor
