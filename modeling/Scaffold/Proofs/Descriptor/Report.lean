import Scaffold.Proofs.Descriptor.Conditions
import Scaffold.Proofs.Descriptor.Paths

/-!
# What the validation of a tree reports

`Node.Precedes` is the pre-order of a tree, told by addresses alone. The walk lists the nodes in that
order (`Typed.pairwise_nodes`) and the validation its reports. The order is strict, so that at most
one list has given members in that order; the report on a tree is the list of its rejected
conditions.
-/

namespace Scaffold.Descriptor

/-! ### Pre-order -/

/-- The place of a field among the declared ones. -/
def Kind.place (kind : Kind) (f : Field) : Nat := (kind.schema.map (·.field)).idxOf f

/-- Of two steps down from a node, the first leads into a field that is declared before the other's,
or into the same list at a smaller index. -/
inductive Address.Step.Before (kind : Kind) : Step → Step → Prop
  | field {s t : Step} (h : kind.place s.field < kind.place t.field) : Before kind s t
  | index {f : Field} {i j : Nat} (h : i < j) : Before kind ⟨f, some i⟩ ⟨f, some j⟩

/-- A node comes before those below it, and of these the ones that an earlier step leads to come
before the others. -/
inductive Node.Precedes : Node → Address → Address → Prop
  | above {n : Node} {s : Address.Step} {p : Address} : Precedes n [] (s :: p)
  | beside {n : Node} {s t : Address.Step} {p q : Address} (h : s.Before n.kind t) :
      Precedes n (s :: p) (t :: q)
  | inside {n m : Node} {s : Address.Step} {p q : Address} (hm : n.descend s = some m)
      (h : Precedes m p q) : Precedes n (s :: p) (s :: q)

/-- The order of reports: that of their nodes, and `if` before `unless` on one node. -/
inductive BadCondition.Precedes (root : Node) : BadCondition → BadCondition → Prop
  | node {a b : BadCondition} (h : root.Precedes a.address b.address) : Precedes root a b
  | guard {a b : BadCondition} (here : a.address = b.address) (onlyIf : a.guard = .onlyIf)
      (exceptIf : b.guard = .exceptIf) : Precedes root a b

theorem Address.Step.Before.asymm {kind : Kind} {s t : Step} (h : s.Before kind t) :
    ¬ t.Before kind s := by
  intro h'
  cases h with
  | field h =>
    cases h' with
    | field h' => exact Nat.lt_asymm h h'
    | index h' => exact Nat.lt_irrefl _ h
  | index h =>
    cases h' with
    | field h' => exact Nat.lt_irrefl _ h'
    | index h' => exact Nat.lt_asymm h h'

theorem Node.Precedes.asymm {n : Node} {p q : Address} (h : n.Precedes p q) : ¬ n.Precedes q p := by
  induction h with
  | above =>
    intro h'
    cases h'
  | beside h =>
    intro h'
    cases h' with
    | beside h' => exact h.asymm h'
    | inside hm h' => exact h.asymm h
  | inside hm h ih =>
    intro h'
    cases h' with
    | beside h' => exact h'.asymm h'
    | inside hm' h' =>
      rw [hm] at hm'
      cases hm'
      exact ih h'

theorem Node.Precedes.ne {n : Node} {p q : Address} (h : n.Precedes p q) : p ≠ q := by
  rintro rfl
  exact h.asymm h

theorem BadCondition.Precedes.asymm {root : Node} {a b : BadCondition} (h : Precedes root a b) :
    ¬ Precedes root b a := by
  intro h'
  cases h with
  | node h =>
    cases h' with
    | node h' => exact h.asymm h'
    | guard here => exact h.ne here.symm
  | guard here onlyIf exceptIf =>
    cases h' with
    | node h' => exact h'.ne here.symm
    | guard here' onlyIf' exceptIf' =>
      rw [exceptIf] at onlyIf'
      cases onlyIf'

theorem BadCondition.nodup_of_pairwise {root : Node} {reports : List BadCondition}
    (h : reports.Pairwise (Precedes root)) : reports.Nodup := by
  refine h.imp ?_
  rintro a _ haa rfl
  exact haa.asymm haa

theorem BadCondition.eq_of_pairwise {root : Node} {as bs : List BadCondition}
    (ha : as.Pairwise (Precedes root)) (hb : bs.Pairwise (Precedes root))
    (hmem : ∀ bad, bad ∈ as ↔ bad ∈ bs) : as = bs := by
  have hperm : as.Perm bs :=
    (List.perm_ext_iff_of_nodup (nodup_of_pairwise ha) (nodup_of_pairwise hb)).2 hmem
  exact hperm.eq_of_pairwise (fun a b _ _ hab hba => absurd hba hab.asymm) ha hb

/-! ### The walk lists nodes in pre-order -/

theorem Kind.pairwise_place (kind : Kind) :
    (kind.schema.map (·.field)).Pairwise fun f g => kind.place f < kind.place g := by
  rw [List.pairwise_iff_getElem]
  intro i j hi hj hij
  have hnodup := nodup_schema kind
  rw [place, place, hnodup.idxOf_getElem i hi, hnodup.idxOf_getElem j hj]
  exact hij

theorem Slot.pairwise_steps (slot : Slot) (kind : Kind) :
    slot.steps.Pairwise fun a b => a.1.Before kind b.1 := by
  cases slot with
  | scalar f v => exact .nil
  | child f m =>
    cases m with
    | none => exact .nil
    | some m => exact List.pairwise_singleton _ _
  | children f ns =>
    have hindex : ns.zipIdx.Pairwise fun a b => a.2 < b.2 := by
      rw [← List.pairwise_map, List.zipIdx_map_snd]
      exact List.pairwise_lt_range'
    rw [steps, List.pairwise_map]
    exact hindex.imp fun h => .index h

namespace Node

variable {n : Node}

theorem Typed.regular (h : n.Typed) : n.Regular := by
  induction h with
  | mk fields below ih =>
    refine .mk ?_ ih
    rw [map_field_of_takes fields]
    exact nodup_schema _

theorem pairwise_steps (h : List.Forall₂ Declaration.Takes n.kind.schema n.slots) :
    n.steps.Pairwise fun a b => a.1.Before n.kind b.1 := by
  have hplace : n.slots.Pairwise fun a b => n.kind.place a.field < n.kind.place b.field := by
    have hfields := n.kind.pairwise_place
    rw [← map_field_of_takes h, List.pairwise_map] at hfields
    exact hfields
  rw [steps, List.pairwise_flatMap]
  refine ⟨fun slot _ => slot.pairwise_steps n.kind, hplace.imp ?_⟩
  intro a b hab x hx y hy
  have hx := (Slot.mem_steps_iff.1 hx).1
  have hy := (Slot.mem_steps_iff.1 hy).1
  exact .field (hx ▸ hy ▸ hab)

theorem Regular.walk_eq_map (h : n.Regular) (here : Address) :
    n.walk here = n.nodes.map fun e => (here ++ e.1, e.2) := by
  induction h generalizing here with
  | mk distinct below ih =>
    rw [nodes, walk_eq, walk_eq, List.map_cons, List.map_flatMap, List.append_nil]
    congr 1
    refine List.flatMap_congr fun ⟨s, m⟩ hm => ?_
    simp only [ih s m hm (here ++ [s]), ih s m hm ([] ++ [s]), List.map_map]
    simp [Function.comp_def]

theorem Regular.nodes_eq (h : n.Regular) :
    n.nodes = ([], n) :: n.steps.flatMap fun (s, m) => m.nodes.map fun e => (s :: e.1, e.2) := by
  cases h with
  | mk distinct below =>
    rw [nodes, walk_eq]
    congr 1
    refine List.flatMap_congr fun ⟨s, m⟩ hm => ?_
    exact (below s m hm).walk_eq_map [s]

theorem Typed.pairwise_nodes (h : n.Typed) :
    n.nodes.Pairwise fun a b => n.Precedes a.1 b.1 := by
  induction h with
  | @mk n fields below ih =>
    have hreg : n.Regular := Typed.regular (.mk fields below)
    -- the node itself, the nodes that one step leads to, and those of two steps
    rw [hreg.nodes_eq, List.pairwise_cons, List.pairwise_flatMap]
    refine ⟨?_, ?_, ?_⟩
    · intro e he
      obtain ⟨⟨s, m⟩, -, he⟩ := List.mem_flatMap.1 he
      obtain ⟨e, -, rfl⟩ := List.mem_map.1 he
      exact .above
    · rintro ⟨s, m⟩ hm
      have hdescend : n.descend s = some m := by
        cases hreg with
        | mk distinct _ => exact descend_of_mem_steps distinct hm
      rw [List.pairwise_map]
      exact (ih s m hm).imp fun h => .inside hdescend h
    · refine (pairwise_steps fields).imp fun {a b} hab x hx y hy => ?_
      obtain ⟨x, -, rfl⟩ := List.mem_map.1 hx
      obtain ⟨y, -, rfl⟩ := List.mem_map.1 hy
      exact .beside hab

end Node

/-! ### The report -/

variable {root : Node}

theorem Node.Typed.pairwise_validate (h : root.Typed) (d : Dialect) :
    (root.validate d).Pairwise (BadCondition.Precedes root) := by
  rw [Node.validate, List.pairwise_flatMap]
  constructor
  · rintro ⟨here, n⟩ -
    rw [List.pairwise_filterMap]
    refine List.pairwise_pair.2 ?_
    intro a ha b hb
    obtain ⟨ha, hif, -⟩ := Guard.check_eq_some_iff.1 ha
    obtain ⟨hb, hunless, -⟩ := Guard.check_eq_some_iff.1 hb
    exact .guard (ha.trans hb.symm) hif hunless
  · refine h.pairwise_nodes.imp fun {x y} hxy a ha b hb => ?_
    obtain ⟨_, -, ha⟩ := List.mem_filterMap.1 ha
    obtain ⟨_, -, hb⟩ := List.mem_filterMap.1 hb
    have ha := (Guard.check_eq_some_iff.1 ha).1
    have hb := (Guard.check_eq_some_iff.1 hb).1
    exact .node (ha ▸ hb ▸ hxy)

theorem Node.Typed.mem_nodes_iff (h : root.Typed) {p : Address} {n : Node} :
    (p, n) ∈ root.nodes ↔ root.follow p.text = some n := by
  rw [Node.follow_text]
  exact ⟨h.regular.at?_of_mem_nodes, Node.mem_nodes_of_at?⟩

/-- **The report on a tree is exactly its rejected conditions.** In either syntax it is the one list,
in pre-order and with `if` before `unless`, of the errors of the parser on the texts of nodes that the
paths lead to from the root. No report comes twice; the nodes of the tree have different paths, and
each path leads to its node. -/
theorem report_lists_rejected_conditions (h : root.Typed) (d : Dialect) :
    (∀ reports : List BadCondition, root.validate d = reports ↔
      reports.Pairwise (BadCondition.Precedes root) ∧
        ∀ bad, bad ∈ reports ↔ ∃ n text, root.follow bad.address.text = some n ∧
          bad.guard.text? n = some text ∧ d.parse text = .error bad.cause) ∧
    (root.validate d).Nodup ∧
    (root.nodes.map fun e => e.1.text).Nodup ∧
    ∀ p n, (p, n) ∈ root.nodes ↔ root.follow p.text = some n := by
  have horder := h.pairwise_validate d
  have hmem (bad : BadCondition) : bad ∈ root.validate d ↔
      ∃ n text, root.follow bad.address.text = some n ∧ bad.guard.text? n = some text ∧
        d.parse text = .error bad.cause := by
    simp only [Node.mem_validate_iff, h.mem_nodes_iff]
  refine ⟨fun reports => ⟨?_, ?_⟩, BadCondition.nodup_of_pairwise horder, ?_,
    fun p n => h.mem_nodes_iff⟩
  · rintro rfl
    exact ⟨horder, hmem⟩
  · rintro ⟨horder', hmem'⟩
    exact BadCondition.eq_of_pairwise horder horder' fun bad => (hmem bad).trans (hmem' bad).symm
  · rw [List.Nodup, List.pairwise_map]
    exact h.pairwise_nodes.imp fun hab heq => hab.ne (Address.text_inj.1 heq)

theorem typed_guardedScript (onlyIf exceptIf : String) : (guardedScript onlyIf exceptIf).Typed := by
  refine .mk ?_ fun s m hm => ?_
  · exact .cons (.scalar (.attributes _)) <| .cons (.children rfl _) <| .cons (.children rfl _) <|
      .cons (.children rfl _) <| .cons (.children rfl _) <| .cons (.children rfl _) <|
      .cons (.scalar (.text _)) <| .cons (.child rfl _) .nil
  · obtain ⟨-, rfl⟩ : s = ⟨.contexts, some 0⟩ ∧ m = .mk .contextBlock _ := by
      simpa [guardedScript, guardedBlock, Node.steps, Node.slots, Slot.steps] using hm
    refine .mk ?_ fun s m hm => by cases hm
    exact .cons (.children rfl _) <| .cons (.scalar (.text _)) <| .cons (.scalar (.text _)) .nil

/-- Both conditions of a context break off. They are reported under a path that leads to a node with
the first of them. -/
theorem report_on_broken_context :
    ((guardedScript "$a ==" "($b").validate .stack).map (fun bad => (bad.address.text, bad.guard)) =
        [("/contexts[0]", .onlyIf), ("/contexts[0]", .exceptIf)] ∧
      ∃ n text, (guardedScript "$a ==" "($b").follow "/contexts[0]" = some n ∧
        n.onlyIf = some text ∧
        Stack.parse text = .error ⟨"$a ==", 3, .noRightOperand (.comparison .equal)⟩ := by
  have hreport : (guardedScript "$a ==" "($b").validate .stack =
      [⟨[⟨.contexts, some 0⟩], .onlyIf, ⟨"$a ==", 3, .noRightOperand (.comparison .equal)⟩⟩,
        ⟨[⟨.contexts, some 0⟩], .exceptIf, ⟨"($b", 0, .unmatched '('⟩⟩] := by decide +kernel
  have htyped := typed_guardedScript "$a ==" "($b"
  obtain ⟨-, hmem⟩ := ((report_lists_rejected_conditions htyped .stack).1 _).1 hreport
  refine ⟨?_, (hmem _).1 List.mem_cons_self⟩
  rw [hreport]
  decide +kernel

end Scaffold.Descriptor
