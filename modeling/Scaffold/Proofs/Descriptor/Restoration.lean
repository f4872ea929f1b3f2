import Scaffold.Descriptor.Dump
import Scaffold.Proofs.Descriptor.Assembly
import Scaffold.Proofs.Descriptor.Walk

/-!
# The dump of a tree restores it

What a dump leaves out, the schema puts back: `Node.ofPlain?` looks each declared field up and takes
an absent text, node, list or dictionary for an empty one. It undoes the dump of every tree whose
slots hold what their fields declare (`Typed.ofPlain?_toPlain`), and it sees nothing of the order in
which an object has its entries (`same_restore`), so that trees with the same dump are the same.
-/

namespace Scaffold

/-! ### Plain data as JSON values -/

/-- The same JSON value: the entries of an object may come in any order. -/
inductive Plain.Same : Plain → Plain → Prop
  | null : Same .null .null
  | bool (b : Bool) : Same (.bool b) (.bool b)
  | number (n : Number) : Same (.number n) (.number n)
  | text (s : String) : Same (.text s) (.text s)
  | list {ps qs : List Plain} (length : ps.length = qs.length)
      (items : ∀ p q, (p, q) ∈ ps.zip qs → Same p q) : Same (.list ps) (.list qs)
  | object {es fs : List (String × Plain)}
      (keys : ∀ key, (es.lookup key).isSome = (fs.lookup key).isSome)
      (values : ∀ key p q, es.lookup key = some p → fs.lookup key = some q → Same p q) :
      Same (.object es) (.object fs)

theorem Plain.Same.cons {key : String} {p q : Plain} {es fs : List (String × Plain)}
    (hpq : p.Same q) (h : (Plain.object es).Same (.object fs)) :
    (Plain.object ((key, p) :: es)).Same (.object ((key, q) :: fs)) := by
  cases h with
  | object keys values =>
    refine .object (fun other => ?_) fun other p' q' hp' hq' => ?_
    · rw [lookup_cons_eq, lookup_cons_eq]
      split
      · rfl
      · exact keys other
    · rw [lookup_cons_eq] at hp' hq'
      split at hp'
      · next hkey =>
        rw [if_pos hkey] at hq'
        cases hp'
        cases hq'
        exact hpq
      · next hkey =>
        rw [if_neg hkey] at hq'
        exact values other p' q' hp' hq'

theorem Plain.Same.refl : (p : Plain) → p.Same p
  | .null => .null
  | .bool b => .bool b
  | .number n => .number n
  | .text s => .text s
  | .list ps => .list rfl fun p q hpq => by
    obtain ⟨i, hi⟩ := List.mem_iff_getElem?.1 hpq
    obtain ⟨hp, hq⟩ := List.getElem?_zip_eq_some.1 hi
    cases hp.symm.trans hq
    have hlt := List.sizeOf_lt_of_mem (List.mem_of_getElem? hp)
    exact refl p
  | .object es => .object (fun _ => rfl) fun key p q hp hq => by
    cases hp.symm.trans hq
    have hmem : (key, p) ∈ es := by
      obtain ⟨before, after, hes, -⟩ := List.lookup_eq_some_iff.1 hp
      simp [hes]
    have hlt := List.sizeOf_lt_of_mem hmem
    exact refl p
termination_by p => sizeOf p
decreasing_by
  · simp only [Plain.list.sizeOf_spec] at hlt ⊢
    omega
  · simp only [Plain.object.sizeOf_spec, Prod.mk.sizeOf_spec] at hlt ⊢
    omega

def Plain.text? : Plain → Option String
  | .text s => some s
  | _ => none

theorem Plain.Same.text?_eq {p q : Plain} (h : p.Same q) : p.text? = q.text? := by
  cases h <;> rfl

namespace Descriptor

/-! ### Trees whose slots hold what their fields declare -/

inductive Shape.Takes : Shape → Scalar → Prop
  | text (s : Option String) : Takes .text (.text s)
  | requiredText (s : String) : Takes .requiredText (.text (some s))
  | flag (b : Bool) : Takes .flag (.flag b)
  | order (n : Int) : Takes .order (.order n)
  | texts (ss : List String) : Takes .texts (.texts ss)
  | attributes (es : Markup.Attributes) : Takes .attributes (.attributes es)

inductive Declaration.Takes (d : Declaration) : Slot → Prop
  | scalar {v : Scalar} (h : d.shape.Takes v) : Takes d (.scalar d.field v)
  | child (h : d.shape = .node) (n : Option Node) : Takes d (.child d.field n)
  | children (h : d.shape = .nodes) (ns : List Node) : Takes d (.children d.field ns)

/-- One slot for each declared field with what the field declares, in the node and in all nodes
below. -/
inductive Node.Typed : Node → Prop
  | mk {n : Node} (fields : List.Forall₂ Declaration.Takes n.kind.schema n.slots)
      (below : ∀ s m, (s, m) ∈ n.steps → Typed m) : Typed n

/-! ### Trees that are the same -/

/-- Attributes are a dictionary, whose entries may come in any order. -/
inductive Scalar.Same : Scalar → Scalar → Prop
  | refl (v : Scalar) : Same v v
  | attributes {es fs : Markup.Attributes} (h : ∀ name, es.lookup name = fs.lookup name) :
      Same (.attributes es) (.attributes fs)

inductive Slot.Alike (R : Node → Node → Prop) : Slot → Slot → Prop
  | scalar {f : Field} {v w : Scalar} (h : v.Same w) : Alike R (.scalar f v) (.scalar f w)
  | child {f : Field} {m n : Option Node} (h : Option.Rel R m n) : Alike R (.child f m) (.child f n)
  | children {f : Field} {ms ns : List Node} (h : List.Forall₂ R ms ns) :
      Alike R (.children f ms) (.children f ns)

/-- The same kind, and in each slot the same contents. -/
inductive Node.Same : Node → Node → Prop
  | mk {kind : Kind} {ss ts : List Slot} (h : List.Forall₂ (Slot.Alike Node.Same) ss ts) :
      Same (.mk kind ss) (.mk kind ts)

/-! ### The decoder -/

/-- What a value of a dump stands for: the data as they are, the node that they show, and the nodes
that they list. -/
structure Cell where
  plain : Plain
  node : Option Node := none
  nodes : Option (List Node) := none

def Cell.kind? (c : Cell) : Option Kind := c.plain.text?.bind Kind.ofName?

/-- The contents of a field that holds no nodes. What the dump leaves out is empty. -/
def Shape.restore? : Shape → Option Plain → Option Scalar
  | .text, none => some (.text none)
  | .text, some (.text s) => some (.text (some s))
  | .requiredText, some (.text s) => some (.text (some s))
  | .flag, some (.bool b) => some (.flag b)
  | .order, some (.number (.integer n)) => some (.order n)
  | .texts, none => some (.texts [])
  | .texts, some (.list ps) => (ps.mapM Plain.text?).map .texts
  | .attributes, none => some (.attributes [])
  | .attributes, some (.object es) => some (.attributes (es.map fun e => (e.1, e.2.text?)))
  | _, _ => none

def Declaration.restore? (d : Declaration) (c : Option Cell) : Option Slot :=
  match d.shape, c with
  | .node, none => some (.child d.field none)
  | .node, some c => c.node.map fun n => .child d.field (some n)
  | .nodes, none => some (.children d.field [])
  | .nodes, some c => c.nodes.map (.children d.field)
  | shape, c => (shape.restore? (c.map Cell.plain)).map (.scalar d.field)

namespace Node

/-- The node whose kind and fields the cells under their names give. -/
def ofCells? (cell? : String → Option Cell) : Option Node :=
  ((cell? "kind").bind Cell.kind?).bind fun kind =>
    (kind.schema.mapM fun d : Declaration => d.restore? (cell? d.field.spelling)).map (.mk kind)

mutual

def restore : Plain → Cell
  | .object entries =>
    { plain := .object entries, node := ofCells? fun key => (restoreEntries entries).lookup key }
  | .list items => { plain := .list items, nodes := restoreItems items }
  | p => { plain := p }

def restoreEntries : List (String × Plain) → List (String × Cell)
  | [] => []
  | (key, p) :: entries => (key, restore p) :: restoreEntries entries

def restoreItems : List Plain → Option (List Node)
  | [] => some []
  | p :: ps => do return (← (restore p).node) :: (← restoreItems ps)

end

/-- The tree of a dump. -/
def ofPlain? (p : Plain) : Option Node := (restore p).node

theorem restoreEntries_eq (entries : List (String × Plain)) :
    restoreEntries entries = entries.map fun e => (e.1, restore e.2) := by
  induction entries with
  | nil => rw [restoreEntries, List.map_nil]
  | cons e entries ih => rw [restoreEntries, ih, List.map_cons]

theorem restoreItems_eq (ps : List Plain) : restoreItems ps = ps.mapM ofPlain? := by
  induction ps with
  | nil => rw [restoreItems, List.mapM_nil]; rfl
  | cons p ps ih => rw [restoreItems, ih, List.mapM_cons]; rfl

theorem plain_restore (p : Plain) : (restore p).plain = p := by
  cases p <;> rfl

theorem ofPlain?_object (entries : List (String × Plain)) :
    ofPlain? (.object entries) = ofCells? fun key => (entries.lookup key).map restore := by
  rw [ofPlain?, restore, restoreEntries_eq]
  simp only [lookup_map_snd]

theorem nodes_restore_list (ps : List Plain) : (restore (.list ps)).nodes = ps.mapM ofPlain? := by
  rw [restore, restoreItems_eq]

end Node

/-! ### What a dump shows of each field -/

theorem Kind.ofName?_name (kind : Kind) : Kind.ofName? kind.name = some kind := by
  cases kind <;> decide

theorem Field.ofSpelling?_spelling (f : Field) : Field.ofSpelling? f.spelling = some f := by
  cases f <;> decide

theorem Field.spelling_inj {f g : Field} : f.spelling = g.spelling ↔ f = g := by
  constructor
  · intro h
    have hf := ofSpelling?_spelling f
    rw [h, ofSpelling?_spelling g] at hf
    exact (Option.some.inj hf).symm
  · rintro rfl
    rfl

theorem Field.spelling_ne_kind (f : Field) : f.spelling ≠ "kind" := by
  cases f <;> decide

/-- What a dump shows of a scalar. -/
def Scalar.plain? : Scalar → Option Plain
  | text s => s.map .text
  | flag b => some (.bool b)
  | order n => some (.int n)
  | texts [] => none
  | texts ss => some (.list (ss.map .text))
  | attributes [] => none
  | attributes es => some (.object (es.map fun e => (e.1, attributeValue e.2)))

theorem Scalar.entry_eq (f : Field) (v : Scalar) :
    v.entry f = (v.plain?.map fun p => (f.spelling, p)).toList := by
  cases v with
  | text s => cases s <;> rfl
  | flag b => rfl
  | order n => rfl
  | texts ss => cases ss <;> rfl
  | attributes es => cases es <;> rfl

/-- What a dump shows of a slot. -/
def Slot.plain? : Slot → Option Plain
  | scalar _ v => v.plain?
  | child _ n => n.map Node.toPlain
  | children _ [] => none
  | children _ ns => some (.list (ns.map Node.toPlain))

namespace Node

theorem nodesToPlain_eq (ns : List Node) : nodesToPlain ns = ns.map toPlain := by
  induction ns with
  | nil => rw [nodesToPlain, List.map_nil]
  | cons n ns ih => rw [nodesToPlain, ih, List.map_cons]

theorem slotEntries_cons (slot : Slot) (slots : List Slot) :
    slotEntries (slot :: slots) =
      (slot.plain?.map fun p => (slot.field.spelling, p)).toList ++ slotEntries slots := by
  cases slot with
  | scalar f v =>
    rw [slotEntries, Scalar.entry_eq]
    rfl
  | child f n => cases n <;> rfl
  | children f ns =>
    cases ns with
    | nil => rfl
    | cons n ns =>
      rw [slotEntries, nodesToPlain_eq]
      rfl

/-- With one slot for each field, a field is shown as its slot is. -/
theorem lookup_slotEntries {slots : List Slot} (h : (slots.map Slot.field).Nodup) (f : Field) :
    (slotEntries slots).lookup f.spelling = (slots.find? (·.field == f)).bind Slot.plain? := by
  induction slots with
  | nil => rfl
  | cons slot slots ih =>
    rw [List.map_cons, List.nodup_cons] at h
    rw [slotEntries_cons, List.lookup_append, ih h.2]
    by_cases hf : slot.field = f
    · subst hf
      -- no other slot is for this field
      have hnone : slots.find? (·.field == slot.field) = none := by
        rw [List.find?_eq_none]
        intro other hother hfield
        exact h.1 (List.mem_map.2 ⟨other, hother, by simpa using hfield⟩)
      rw [hnone, List.find?_cons_of_pos (by simp), Option.bind_none, Option.or_none,
        Option.bind_some]
      cases slot.plain? with
      | none => rfl
      | some p =>
        rw [Option.map_some, Option.toList_some, lookup_cons_eq, if_pos rfl]
    · -- the slot is for another field, which is spelled otherwise
      have hskip : ((slot.plain?.map fun p => (slot.field.spelling, p)).toList).lookup f.spelling =
          none := by
        cases slot.plain? with
        | none => rfl
        | some p =>
          rw [Option.map_some, Option.toList_some, lookup_cons_eq,
            if_neg fun heq => hf (Field.spelling_inj.1 heq.symm), List.lookup_nil]
      rw [hskip, Option.none_or, List.find?_cons_of_neg (by simpa using hf)]

def entries (n : Node) : List (String × Plain) :=
  ("kind", .text n.kind.name) :: slotEntries n.slots

theorem toPlain_eq (n : Node) : n.toPlain = .object n.entries := by
  cases n
  rw [toPlain]
  rfl

theorem lookup_entries_kind (n : Node) : n.entries.lookup "kind" = some (.text n.kind.name) := by
  rw [entries, lookup_cons_eq, if_pos rfl]

theorem lookup_entries {n : Node} (h : (n.slots.map Slot.field).Nodup) {slot : Slot}
    (hslot : slot ∈ n.slots) : n.entries.lookup slot.field.spelling = slot.plain? := by
  have hfound : n.slots.find? (·.field == slot.field) = some slot := slot?_of_mem h hslot
  rw [entries, lookup_cons_eq, if_neg slot.field.spelling_ne_kind, lookup_slotEntries h, hfound,
    Option.bind_some]

end Node

/-! ### Restoring what was dumped -/

section RoundTrip

variable {d : Declaration} {slot : Slot} {n : Node}

theorem text?_attributeValue (v : Option String) : (attributeValue v).text? = v := by
  cases v <;> rfl

theorem Shape.Takes.restore? {shape : Shape} {v : Scalar} (h : shape.Takes v) :
    shape.restore? v.plain? = some v := by
  cases h with
  | text s => cases s <;> rfl
  | requiredText s => rfl
  | flag b => rfl
  | order n => rfl
  | texts ss =>
    cases ss with
    | nil => rfl
    | cons s ss =>
      have hmap : ((s :: ss).map Plain.text).mapM Plain.text? = some (s :: ss) := by
        rw [mapM_eq_some_iff, List.forall₂_map_left_iff, List.forall₂_same]
        intro s _
        rfl
      exact congrArg (Option.map Scalar.texts) hmap
  | attributes es =>
    cases es with
    | nil => rfl
    | cons e es =>
      have hmap : ((e :: es).map fun e => (e.1, attributeValue e.2)).map
          (fun e => (e.1, e.2.text?)) = e :: es := by
        rw [List.map_map]
        refine (List.map_congr_left fun e _ => ?_).trans (List.map_id _)
        exact Prod.ext rfl (text?_attributeValue e.2)
      exact congrArg (fun es => some (Scalar.attributes es)) hmap

theorem Shape.Takes.declared_restore? {v : Scalar} (h : d.shape.Takes v) (c : Option Cell) :
    d.restore? c = (d.shape.restore? (c.map Cell.plain)).map (.scalar d.field) := by
  obtain ⟨f, shape, origin⟩ := d
  cases h <;> rfl

theorem Declaration.Takes.field_eq (h : d.Takes slot) : slot.field = d.field := by
  cases h <;> rfl

theorem map_field_of_takes {ds : List Declaration} {slots : List Slot}
    (h : List.Forall₂ Declaration.Takes ds slots) :
    slots.map Slot.field = ds.map (·.field) := by
  rw [← List.forall₂_eq_eq_eq, List.forall₂_map_left_iff, List.forall₂_map_right_iff]
  exact h.flip.imp fun slot d hd => hd.field_eq

theorem Declaration.Takes.restore? (h : d.Takes slot)
    (hnodes : ∀ s m, (s, m) ∈ slot.steps → Node.ofPlain? m.toPlain = some m) :
    d.restore? (slot.plain?.map Node.restore) = some slot := by
  cases h with
  | @scalar v h =>
    rw [h.declared_restore?, Option.map_map, Function.comp_def, Slot.plain?]
    simp only [Node.plain_restore, Option.map_id', h.restore?, Option.map_some]
  | child h n =>
    cases n with
    | none => simp only [restore?, h, Slot.plain?, Option.map_none]
    | some n =>
      have hn : (Node.restore n.toPlain).node = some n :=
        hnodes ⟨d.field, none⟩ n (Slot.mem_steps_iff.2 ⟨rfl, rfl⟩)
      simp only [restore?, h, Slot.plain?, Option.map_some, hn]
  | children h ns =>
    cases ns with
    | nil => simp only [restore?, h, Slot.plain?, Option.map_none]
    | cons n ns =>
      have hns : ((n :: ns).map Node.toPlain).mapM Node.ofPlain? = some (n :: ns) := by
        rw [mapM_eq_some_iff, List.forall₂_map_left_iff, List.forall₂_same]
        intro m hm
        obtain ⟨i, hi⟩ := List.mem_iff_getElem?.1 hm
        exact hnodes ⟨d.field, some i⟩ m (Slot.mem_steps_iff.2 ⟨rfl, hi⟩)
      simp only [restore?, h, Slot.plain?, Option.map_some, Node.nodes_restore_list, hns]

/-- Restoring undoes the dump. -/
theorem Node.Typed.ofPlain?_toPlain (h : n.Typed) : ofPlain? n.toPlain = some n := by
  induction h with
  | @mk n fields below ih =>
    have hnodup : (n.slots.map Slot.field).Nodup := by
      rw [map_field_of_takes fields]
      exact nodup_schema n.kind
    have hkind : ((n.entries.lookup "kind").map restore).bind Cell.kind? = some n.kind := by
      rw [lookup_entries_kind]
      exact Kind.ofName?_name n.kind
    have hslots : (n.kind.schema.mapM fun d =>
        d.restore? ((n.entries.lookup d.field.spelling).map restore)) = some n.slots := by
      rw [mapM_eq_some_iff, List.forall₂_iff_zip]
      refine ⟨fields.length_eq, fun {d slot} hmem => ?_⟩
      have hd : d.Takes slot := (List.forall₂_iff_zip.1 fields).2 hmem
      have hslot : slot ∈ n.slots := (List.of_mem_zip hmem).2
      rw [← hd.field_eq, lookup_entries hnodup hslot]
      exact hd.restore? fun s m hm => ih s m (List.mem_flatMap.2 ⟨slot, hslot, hm⟩)
    rw [toPlain_eq, ofPlain?_object, ofCells?, hkind, Option.bind_some, hslots, Option.map_some]
    cases n
    rfl

end RoundTrip

/-! ### Restoring the same data -/

section Congruence

variable {p q : Plain} {c c' : Option Cell}

/-- The same data, and the same nodes that they show or list. -/
structure Cell.Same (c c' : Cell) : Prop where
  plain : c.plain.Same c'.plain
  node : Option.Rel Node.Same c.node c'.node
  nodes : Option.Rel (List.Forall₂ Node.Same) c.nodes c'.nodes

theorem Shape.rel_restore? (shape : Shape) {x y : Option Plain} (h : Option.Rel Plain.Same x y) :
    Option.Rel Scalar.Same (shape.restore? x) (shape.restore? y) := by
  -- only lists and objects can differ, and of them only attributes keep the difference
  have refl (v : Option Scalar) : Option.Rel Scalar.Same v v := by
    cases v with
    | none => exact .none
    | some v => exact .some (.refl v)
  cases h with
  | none => exact refl _
  | some h =>
    cases h with
    | null | bool _ | number _ | text _ => exact refl _
    | @list ps qs length items =>
      cases shape with
      | texts =>
        have htexts : ps.mapM Plain.text? = qs.mapM Plain.text? :=
          mapM_eq_of_forall₂ (List.forall₂_iff_zip.2 ⟨length, fun {p q} hpq =>
            (items p q hpq).text?_eq⟩)
        rw [restore?, restore?, htexts]
        exact refl _
      | _ => exact .none
    | @object es fs keys values =>
      cases shape with
      | attributes =>
        refine .some (.attributes fun name => ?_)
        rw [lookup_map_snd, lookup_map_snd]
        have hrel := rel_of_isSome (keys name) (values name)
        generalize es.lookup name = x at hrel
        generalize fs.lookup name = y at hrel
        cases hrel with
        | none => rfl
        | some h => exact congrArg some h.text?_eq
      | _ => exact .none

theorem Declaration.rel_restore? (d : Declaration) (h : Option.Rel Cell.Same c c') :
    Option.Rel (Slot.Alike Node.Same) (d.restore? c) (d.restore? c') := by
  obtain ⟨f, shape, origin⟩ := d
  have hscalar : Option.Rel (Slot.Alike Node.Same)
      ((shape.restore? (c.map Cell.plain)).map (.scalar f))
      ((shape.restore? (c'.map Cell.plain)).map (.scalar f)) :=
    rel_map (shape.rel_restore? (rel_map h fun _ _ hc => hc.plain)) fun _ _ hv => .scalar hv
  cases shape with
  | node =>
    cases h with
    | none => exact .some (.child .none)
    | some h => exact rel_map h.node fun _ _ hn => .child (.some hn)
  | nodes =>
    cases h with
    | none => exact .some (.children .nil)
    | some h => exact rel_map h.nodes fun _ _ hns => .children hns
  | _ => exact hscalar

theorem Node.rel_ofCells? {cell? other? : String → Option Cell}
    (h : ∀ key, Option.Rel Cell.Same (cell? key) (other? key)) :
    Option.Rel Node.Same (ofCells? cell?) (ofCells? other?) := by
  have hkind : (cell? "kind").bind Cell.kind? = (other? "kind").bind Cell.kind? := by
    have hcell := h "kind"
    generalize cell? "kind" = x at hcell
    generalize other? "kind" = y at hcell
    cases hcell with
    | none => rfl
    | some hc => exact congrArg (Option.bind · Kind.ofName?) hc.plain.text?_eq
  rw [ofCells?, ofCells?, hkind]
  cases (other? "kind").bind Cell.kind? with
  | none => exact .none
  | some kind =>
    have hslots := rel_mapM (S := Slot.Alike Node.Same)
      (List.forall₂_same.2 fun d (_ : d ∈ kind.schema) => d.rel_restore? (h d.field.spelling))
    exact rel_map hslots fun ss ts hst => .mk hst

theorem same_restore (h : p.Same q) : (Node.restore p).Same (Node.restore q) := by
  induction h with
  | null => exact ⟨.null, .none, .none⟩
  | bool b => exact ⟨.bool b, .none, .none⟩
  | number n => exact ⟨.number n, .none, .none⟩
  | text s => exact ⟨.text s, .none, .none⟩
  | @list ps qs length items ih =>
    refine ⟨.list length items, .none, ?_⟩
    rw [Node.nodes_restore_list, Node.nodes_restore_list]
    exact rel_mapM (List.forall₂_iff_zip.2 ⟨length, fun {p q} hpq => (ih p q hpq).node⟩)
  | @object es fs keys values ih =>
    refine ⟨.object keys values, ?_, .none⟩
    have hcells (key : String) :
        Option.Rel Cell.Same ((es.lookup key).map Node.restore) ((fs.lookup key).map Node.restore) :=
      rel_map (rel_of_isSome (keys key) (ih key)) fun _ _ hpq => hpq
    have hnode := Node.rel_ofCells? hcells
    rw [← Node.ofPlain?_object, ← Node.ofPlain?_object] at hnode
    exact hnode

end Congruence

/-- **The dump of a tree loses nothing.** On trees whose slots hold what their fields declare, the
decoder undoes the dump, whatever the order of the entries in its objects, and trees are the same
if their dumps are: equal if the dumps are equal, and equal but for the order of attributes if the
dumps are the same JSON value. -/
theorem dump_loses_nothing {a b : Node} (ha : a.Typed) (hb : b.Typed) :
    Node.ofPlain? a.toPlain = some a ∧
      (∀ p : Plain, p.Same a.toPlain → ∃ n, Node.ofPlain? p = some n ∧ n.Same a) ∧
      (a.toPlain = b.toPlain → a = b) ∧ (a.toPlain.Same b.toPlain → a.Same b) := by
  have hrestored {p : Plain} {n : Node} (hn : n.Typed) (h : p.Same n.toPlain) :
      Option.Rel Node.Same (Node.ofPlain? p) (some n) :=
    hn.ofPlain?_toPlain ▸ (same_restore h).node
  refine ⟨ha.ofPlain?_toPlain, ?_, ?_, ?_⟩
  · intro p hp
    have hrel := hrestored ha hp
    -- the dump itself is restored to `a`, so what is like it is restored to what is like `a`
    generalize Node.ofPlain? p = x at hrel
    cases hrel with
    | some h => exact ⟨_, rfl, h⟩
  · intro h
    have hab := ha.ofPlain?_toPlain
    rw [h, hb.ofPlain?_toPlain] at hab
    exact (Option.some.inj hab).symm
  · intro h
    have hrel := hrestored hb h
    rw [ha.ofPlain?_toPlain] at hrel
    cases hrel with
    | some h => exact h

/-- An output whose model has one value, of order zero. -/
def sparseOutput : Node :=
  .mk .output [.children .transformations [], .children .files [], .children .fileSets [],
    .children .templates [], .children .templateSets [],
    .child .model (some (.mk .model [.children .values [.mk .modelValue [
        .scalar .value (.text (some "")), .scalar .url (.text none), .scalar .file (.text none),
        .scalar .template (.text none), .scalar .order (.order 0), .scalar .onlyIf (.text none),
        .scalar .exceptIf (.text none)]],
      .children .lists [], .children .maps [], .scalar .onlyIf (.text none),
      .scalar .exceptIf (.text none)])),
    .scalar .onlyIf (.text none), .scalar .exceptIf (.text (some ""))]

/-- A script with a truth value that is false, an empty text, and values that are left out. -/
def sparseScript (attributes : Markup.Attributes) : Node :=
  .mk .script [.scalar .attributes (.attributes attributes),
    .children .contexts [.mk .contextBoolean [.scalar .path (.text (some "")),
      .scalar .value (.flag false)]],
    .children .steps [], .children .inputs [], .children .sources [], .children .execs [],
    .scalar .help (.text (some "")), .child .output (some sparseOutput)]

theorem typed_sparseOutput : sparseOutput.Typed := by
  refine .mk ?_ fun s m hm => ?_
  · exact .cons (.children rfl _) <| .cons (.children rfl _) <| .cons (.children rfl _) <|
      .cons (.children rfl _) <| .cons (.children rfl _) <| .cons (.child rfl _) <|
      .cons (.scalar (.text _)) <| .cons (.scalar (.text _)) .nil
  · obtain ⟨-, rfl⟩ : s = ⟨.model, none⟩ ∧ m = .mk .model _ := by
      simpa [sparseOutput, Node.steps, Node.slots, Slot.steps] using hm
    refine .mk ?_ fun s m hm => ?_
    · exact .cons (.children rfl _) <| .cons (.children rfl _) <| .cons (.children rfl _) <|
        .cons (.scalar (.text _)) <| .cons (.scalar (.text _)) .nil
    · obtain ⟨-, rfl⟩ : s = ⟨.values, some 0⟩ ∧ m = .mk .modelValue _ := by
        simpa [Node.steps, Node.slots, Slot.steps] using hm
      refine .mk ?_ fun s m hm => by cases hm
      exact .cons (.scalar (.text _)) <| .cons (.scalar (.text _)) <| .cons (.scalar (.text _)) <|
        .cons (.scalar (.text _)) <| .cons (.scalar (.order _)) <| .cons (.scalar (.text _)) <|
        .cons (.scalar (.text _)) .nil

theorem typed_sparseScript (attributes : Markup.Attributes) : (sparseScript attributes).Typed := by
  refine .mk ?_ fun s m hm => ?_
  · exact .cons (.scalar (.attributes _)) <| .cons (.children rfl _) <| .cons (.children rfl _) <|
      .cons (.children rfl _) <| .cons (.children rfl _) <| .cons (.children rfl _) <|
      .cons (.scalar (.text _)) <| .cons (.child rfl _) .nil
  · obtain ⟨-, rfl⟩ | ⟨-, rfl⟩ : (s = ⟨.contexts, some 0⟩ ∧ m = .mk .contextBoolean _) ∨
        s = ⟨.output, none⟩ ∧ m = sparseOutput := by
      simpa [sparseScript, Node.steps, Node.slots, Slot.steps] using hm
    · refine .mk ?_ fun s m hm => by cases hm
      exact .cons (.scalar (.requiredText _)) <| .cons (.scalar (.flag _)) .nil
    · exact typed_sparseOutput

/-- The dump of a script with nested nodes gives the script back, and scripts with the same attributes
in another order are the same as their dumps are. -/
theorem sparseScript_restored_and_swapped :
    Node.ofPlain? (sparseScript [("a", some "1"), ("b", none)]).toPlain =
        some (sparseScript [("a", some "1"), ("b", none)]) ∧
      (sparseScript [("a", some "1"), ("b", none)]).Same
        (sparseScript [("b", none), ("a", some "1")]) := by
  obtain ⟨hrestored, -, -, hsame⟩ := dump_loses_nothing
    (typed_sparseScript [("a", some "1"), ("b", none)])
    (typed_sparseScript [("b", none), ("a", some "1")])
  have hattributes : Plain.Same (.object [("a", .text "1"), ("b", .null)])
      (.object [("b", .null), ("a", .text "1")]) := by
    refine .object (fun key => ?_) fun key p q hp hq => ?_
    · simp only [lookup_cons_eq, List.lookup_nil]
      split <;> split <;> rfl
    · simp only [lookup_cons_eq, List.lookup_nil] at hp hq
      grind [Plain.Same]
  exact ⟨hrestored, hsame (.cons (.text _) (.cons hattributes (.refl _)))⟩

end Descriptor

end Scaffold
