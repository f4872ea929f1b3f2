import Scaffold.Descriptor.Address

/-!
# Nodes and their addresses

The walk over a tree lists each node with the address that leads to it (`mem_nodes_of_at?`). A node is
`Regular` when it has one slot for each of its fields, and so have the nodes below it; the addresses
that the walk lists in a regular tree lead to the nodes beside them (`Regular.at?_of_mem_nodes`).
-/

namespace Scaffold.Descriptor

namespace Slot

/-- The nodes in a slot, each with the step that leads to it. -/
def steps : Slot → List (Address.Step × Node)
  | scalar _ _ => []
  | child _ none => []
  | child f (some n) => [(⟨f, none⟩, n)]
  | children f ns => ns.zipIdx.map fun (n, i) => (⟨f, some i⟩, n)

/-- The node in a slot, at an index when the slot holds a list. -/
def node? : Slot → Option Nat → Option Node
  | child _ n, none => n
  | children _ ns, some i => ns[i]?
  | _, _ => none

theorem mem_steps_iff {slot : Slot} {s : Address.Step} {n : Node} :
    (s, n) ∈ slot.steps ↔ slot.field = s.field ∧ slot.node? s.index = some n := by
  obtain ⟨f, index⟩ := s
  cases slot with
  | scalar g v => simp [steps, node?]
  | child g m =>
    cases m with
    | none => cases index <;> simp [steps, node?]
    | some m => cases index <;> simp [steps, node?, field, eq_comm]
  | children g ns =>
    cases index with
    | none => simp [steps, node?]
    | some i =>
      simp only [steps, node?, field, List.mem_map, Prod.exists, Prod.mk.injEq,
        Address.Step.mk.injEq, Option.some.injEq, List.mem_zipIdx_iff_getElem?]
      constructor
      · rintro ⟨m, j, hm, ⟨rfl, rfl⟩, rfl⟩
        exact ⟨rfl, hm⟩
      · rintro ⟨rfl, hn⟩
        exact ⟨n, i, hn, ⟨rfl, rfl⟩, rfl⟩

end Slot

namespace Node

/-- The nodes right below a node, each with the step that leads to it. -/
def steps (n : Node) : List (Address.Step × Node) := n.slots.flatMap Slot.steps

/-- One slot for each field, in the node and in all nodes below. -/
inductive Regular : Node → Prop
  | mk {n : Node} (distinct : (n.slots.map Slot.field).Nodup)
      (below : ∀ s m, (s, m) ∈ n.steps → Regular m) : Regular n

/-! ### The walk, level by level -/

theorem walkNodes_eq (here : Address) (f : Field) (ns : List Node) (i : Nat) :
    walkNodes here f i ns =
      (ns.zipIdx i).flatMap fun (n, i) => n.walk (here ++ [⟨f, some i⟩]) := by
  induction ns generalizing i with
  | nil => simp [walkNodes]
  | cons n ns ih => simp [walkNodes, ih]

theorem walkSlots_eq (here : Address) (slots : List Slot) :
    walkSlots here slots =
      (slots.flatMap Slot.steps).flatMap fun (s, n) => n.walk (here ++ [s]) := by
  induction slots with
  | nil => simp [walkSlots]
  | cons slot slots ih =>
    cases slot with
    | scalar f v => simp [walkSlots, Slot.steps, ih]
    | child f n =>
      cases n with
      | none => simp [walkSlots, Slot.steps, ih]
      | some n => simp [walkSlots, Slot.steps, ih]
    | children f ns => simp [walkSlots, Slot.steps, ih, walkNodes_eq, List.flatMap_map]

theorem walk_eq (here : Address) (n : Node) :
    n.walk here = (here, n) :: n.steps.flatMap fun (s, m) => m.walk (here ++ [s]) := by
  cases n with
  | mk kind slots => rw [walk, walkSlots_eq]; rfl

theorem mem_walk_iff {here p : Address} {n m : Node} :
    (p, m) ∈ n.walk here ↔
      (p = here ∧ m = n) ∨ ∃ s k, (s, k) ∈ n.steps ∧ (p, m) ∈ k.walk (here ++ [s]) := by
  rw [walk_eq]
  simp

/-! ### Steps down from a node -/

theorem descend_eq (n : Node) (s : Address.Step) :
    n.descend s = (n.slot? s.field).bind (·.node? s.index) := by
  unfold descend
  cases n.slot? s.field with
  | none => rfl
  | some slot => cases slot <;> cases s.index <;> rfl

theorem mem_of_slot? {n : Node} {f : Field} {slot : Slot} (h : n.slot? f = some slot) :
    slot ∈ n.slots ∧ slot.field = f :=
  ⟨List.mem_of_find?_eq_some h, by simpa using List.find?_some h⟩

theorem slot?_of_mem {n : Node} (h : (n.slots.map Slot.field).Nodup) {slot : Slot}
    (hmem : slot ∈ n.slots) : n.slot? slot.field = some slot := by
  rw [slot?]
  generalize n.slots = slots at h hmem
  induction slots with
  | nil => cases hmem
  | cons a slots ih =>
    rw [List.map_cons, List.nodup_cons] at h
    rcases List.mem_cons.1 hmem with rfl | hmem
    · simp
    · have hne : a.field ≠ slot.field := fun heq => h.1 (heq ▸ List.mem_map_of_mem hmem)
      rw [List.find?_cons_of_neg (by simpa using hne)]
      exact ih h.2 hmem

theorem mem_steps_of_descend {n m : Node} {s : Address.Step} (h : n.descend s = some m) :
    (s, m) ∈ n.steps := by
  rw [descend_eq, Option.bind_eq_some_iff] at h
  obtain ⟨slot, hslot, hm⟩ := h
  obtain ⟨hmem, hfield⟩ := mem_of_slot? hslot
  exact List.mem_flatMap.2 ⟨slot, hmem, Slot.mem_steps_iff.2 ⟨hfield, hm⟩⟩

theorem descend_of_mem_steps {n m : Node} (h : (n.slots.map Slot.field).Nodup) {s : Address.Step}
    (hm : (s, m) ∈ n.steps) : n.descend s = some m := by
  obtain ⟨slot, hmem, hm⟩ := List.mem_flatMap.1 hm
  obtain ⟨hfield, hm⟩ := Slot.mem_steps_iff.1 hm
  rw [descend_eq, ← hfield, slot?_of_mem h hmem]
  exact hm

/-! ### Addresses -/

theorem at?_cons_eq_some_iff {n m : Node} {s : Address.Step} {p : Address} :
    n.at? (s :: p) = some m ↔ ∃ k, n.descend s = some k ∧ k.at? p = some m := by
  rw [at?, Option.bind_eq_some_iff]

theorem mem_walk_of_at? {n m : Node} {q : Address} (h : n.at? q = some m) (here : Address) :
    (here ++ q, m) ∈ n.walk here := by
  induction q generalizing n here with
  | nil =>
    cases h
    exact mem_walk_iff.2 (.inl ⟨by simp, rfl⟩)
  | cons s q ih =>
    obtain ⟨k, hk, hq⟩ := at?_cons_eq_some_iff.1 h
    refine mem_walk_iff.2 (.inr ⟨s, k, mem_steps_of_descend hk, ?_⟩)
    simpa using ih hq (here ++ [s])

theorem mem_nodes_of_at? {n m : Node} {p : Address} (h : n.at? p = some m) : (p, m) ∈ n.nodes :=
  mem_walk_of_at? h []

theorem Regular.exists_at?_of_mem_walk {n m : Node} (h : n.Regular) {here p : Address}
    (hm : (p, m) ∈ n.walk here) : ∃ q, p = here ++ q ∧ n.at? q = some m := by
  induction h generalizing here with
  | mk distinct below ih =>
    obtain ⟨rfl, rfl⟩ | ⟨s, k, hk, hm⟩ := mem_walk_iff.1 hm
    · exact ⟨[], by simp, rfl⟩
    · obtain ⟨q, rfl, hq⟩ := ih s k hk hm
      refine ⟨s :: q, by simp, at?_cons_eq_some_iff.2 ⟨k, ?_, hq⟩⟩
      exact descend_of_mem_steps distinct hk

theorem Regular.at?_of_mem_nodes {n m : Node} (h : n.Regular) {p : Address}
    (hm : (p, m) ∈ n.nodes) : n.at? p = some m := by
  obtain ⟨q, rfl, hq⟩ := h.exists_at?_of_mem_walk hm
  exact hq

end Node

end Scaffold.Descriptor
