import Scaffold.Proofs.Descriptor.Frames

/-!
# Items in another order

A node is filled field by field, so of the items in a frame only those of one field have an order
that counts. Frames are alike if they differ in no other way than in the order of items of different
fields, and states are if their frames are. What one of two alike states accepts the other one
accepts too, and they stay alike (`ReaderState.Alike.run`); so they come to the same root.
-/

namespace Scaffold.Descriptor

open Markup (Event Attributes)

/-! ### Items -/

namespace Children

/-- Each field has the same items in the same order. -/
def Alike (xs ys : Children) : Prop := ∀ f, xs.forField f = ys.forField f

variable {xs ys : Children} {f g : Field}

theorem forField_append : forField (xs ++ ys) f = forField xs f ++ forField ys f := by
  simp [forField]

theorem forField_eq_nil_iff : forField xs f = [] ↔ f ∉ xs.map (·.1) := by
  rw [forField, List.map_eq_nil_iff, List.filter_eq_nil_iff, List.mem_map, not_exists]
  simp only [beq_iff_eq, not_and]

namespace Alike

theorem append (h : Alike xs ys) (zs : Children) : Alike (xs ++ zs) (ys ++ zs) := by
  intro f
  rw [forField_append, forField_append, h f]

theorem mem_iff (h : Alike xs ys) : f ∈ xs.map (·.1) ↔ f ∈ ys.map (·.1) := by
  rw [← not_iff_not, ← forField_eq_nil_iff, ← forField_eq_nil_iff, h f]

theorem any_eq (h : Alike xs ys) (f : Field) : xs.any (·.1 == f) = ys.any (·.1 == f) := by
  rw [Bool.eq_iff_iff, ← not_iff_not, Bool.not_eq_true, Bool.not_eq_true, any_eq_false_iff,
    any_eq_false_iff, h.mem_iff]

theorem swap {xs' ys' : Children} (hxs : ∀ c ∈ xs', c.1 = f) (hys : ∀ c ∈ ys', c.1 = g)
    (hfg : f ≠ g) (xs : Children) : Alike (xs ++ xs' ++ ys') (xs ++ ys' ++ xs') := by
  intro k
  have hnil : forField xs' k = [] ∨ forField ys' k = [] := by
    by_cases hk : k = f
    · right
      rw [forField_eq_nil_iff, List.mem_map]
      rintro ⟨c, hc, rfl⟩
      exact hfg (hk.symm.trans (hys c hc))
    · left
      rw [forField_eq_nil_iff, List.mem_map]
      rintro ⟨c, hc, rfl⟩
      exact hk (hxs c hc)
  simp only [forField_append]
  rcases hnil with h | h <;> simp [h]

end Alike

end Children

section Assembly

variable {xs ys : Children} {kind : Kind} {scalars : List (Field × Scalar)} {n : Node}

theorem Declaration.fill_congr (d : Declaration) (h : xs.Alike ys) :
    d.fill kind ⟨scalars, xs⟩ = d.fill kind ⟨scalars, ys⟩ := by
  have hitems : Parts.itemsFor ⟨scalars, xs⟩ d.field = Parts.itemsFor ⟨scalars, ys⟩ d.field :=
    h d.field
  have hnodes : Parts.nodesFor ⟨scalars, xs⟩ d.field = Parts.nodesFor ⟨scalars, ys⟩ d.field := by
    rw [Parts.nodesFor, hitems, Parts.nodesFor]
  have htexts : Parts.textsFor ⟨scalars, xs⟩ d.field = Parts.textsFor ⟨scalars, ys⟩ d.field := by
    rw [Parts.textsFor, hitems, Parts.textsFor]
  have hscalar : Parts.scalar? ⟨scalars, xs⟩ d.field = Parts.scalar? ⟨scalars, ys⟩ d.field := rfl
  simp only [Declaration.fill, hnodes, htexts, hscalar]

theorem Node.assemble_congr (h : xs.Alike ys) (hn : assemble kind ⟨scalars, xs⟩ = .ok n) :
    assemble kind ⟨scalars, ys⟩ = .ok n := by
  unfold assemble at hn ⊢
  split at hn
  · cases hn
  · next hdeclared =>
    have hdeclared' : (scalars.map (·.1) ++ ys.map (·.1)).find?
        (fun f => (kind.declaration? f).isNone) = none := by
      rw [List.find?_eq_none] at hdeclared ⊢
      intro f hf
      refine hdeclared f ?_
      rcases List.mem_append.1 hf with hf | hf
      · exact List.mem_append_left _ hf
      · exact List.mem_append_right _ (h.mem_iff.2 hf)
    have hfill : (fun d : Declaration => d.fill kind ⟨scalars, ys⟩) =
        fun d => d.fill kind ⟨scalars, xs⟩ := funext fun d => (d.fill_congr h).symm
    simp only [hdeclared', hfill]
    exact hn

end Assembly

/-! ### Frames -/

/-- The frames are the same but for items of different fields that have changed places; and nothing
has in a list of patterns, where all items come together. -/
structure Frame.Alike (f g : Frame) : Prop where
  same : g = { f with items := g.items }
  items : Children.Alike f.items g.items
  listed : (∀ kind, f.place ≠ .node kind) → g.items = f.items

namespace Frame.Alike

variable {f g : Frame}

theorem refl (f : Frame) : f.Alike f := ⟨rfl, fun _ => rfl, fun _ => rfl⟩

theorem name (h : f.Alike g) : g.name = f.name := by rw [h.same]

theorem place (h : f.Alike g) : g.place = f.place := by rw [h.same]

theorem field (h : f.Alike g) : g.field = f.field := by rw [h.same]

theorem hear (h : f.Alike g) (s : String) : (f.hear s).Alike (g.hear s) := by
  unfold Frame.hear
  rw [h.place]
  split
  · refine ⟨?_, h.items, h.listed⟩
    rw [h.same]
  · exact h

theorem add (h : f.Alike g) (zs : Children) :
    { f with items := f.items ++ zs }.Alike { g with items := g.items ++ zs } := by
  refine ⟨?_, h.items.append zs, fun hplace => ?_⟩
  · rw [h.same]
  · show g.items ++ zs = f.items ++ zs
    rw [h.listed hplace]

theorem result_eq_ok (h : f.Alike g) {path : String} {r : Option Item}
    (hr : f.result path = .ok r) : g.result path = .ok r := by
  have hsame := h.same
  cases hplace : f.place with
  | node kind =>
    simp only [result, hplace, bind_eq_ok, mapError_eq_ok] at hr
    obtain ⟨content, hcontent, n, hn, hr⟩ := hr
    have hn' := Node.assemble_congr h.items hn
    rw [hsame]
    simp only [result, hplace, bind_eq_ok, mapError_eq_ok]
    exact ⟨content, hcontent, n, hn', hr⟩
  | document | text | includes | excludes =>
    have hitems : g.items = f.items := h.listed fun kind hk => by simp [hplace] at hk
    rw [hitems] at hsame
    rw [hsame]
    exact hr

end Frame.Alike

/-! ### States -/

structure ReaderState.Alike (st st' : ReaderState) : Prop where
  root : st.root = st'.root
  frames : List.Forall₂ Frame.Alike st.frames st'.frames

namespace ReaderState.Alike

variable {st st' t : ReaderState} {limit : Option Int} {e : Event} {es : List Event}

theorem names (h : st.Alike st') : st.names = st'.names := by
  have hnames : ∀ {fs gs : List Frame}, List.Forall₂ Frame.Alike fs gs →
      fs.map (·.name) = gs.map (·.name) := by
    intro fs gs hfs
    induction hfs with
    | nil => rfl
    | cons hf _ ih => rw [List.map_cons, List.map_cons, hf.name, ih]
  exact hnames h.frames

theorem place (h : st.Alike st') : st.place = st'.place := by
  obtain ⟨root, fs⟩ := st
  obtain ⟨root', gs⟩ := st'
  cases h.frames with
  | nil => rfl
  | cons hf _ => exact hf.place.symm

theorem isFilled (h : st.Alike st') (f : Field) : st.isFilled f = st'.isFilled f := by
  obtain ⟨root, fs⟩ := st
  obtain ⟨root', gs⟩ := st'
  cases h.frames with
  | nil => exact congrArg Option.isSome h.root
  | cons hf _ => exact hf.items.any_eq f

theorem start (h : st.Alike st') {name : String} {attributes : Attributes}
    (hst : st.start limit name attributes = .ok t) :
    ∃ t', st'.start limit name attributes = .ok t' ∧ t.Alike t' := by
  obtain ⟨rule, scalars, hrule, hfree, hlimit, hscalars, rfl⟩ := start_eq_ok_iff.1 hst
  have hopened : st'.opened name rule scalars = st.opened name rule scalars := by
    rw [opened, opened, h.place]
  refine ⟨_, start_eq_ok_iff.2 ⟨rule, scalars, ?_, ?_, ?_, ?_, rfl⟩, h.root, ?_⟩
  · rw [← h.place, hrule]
  · rw [← h.place, ← h.isFilled]
    exact hfree
  · rw [← h.frames.length_eq]
    exact hlimit
  · rw [← h.names]
    exact hscalars
  · rw [hopened]
    exact .cons (.refl _) h.frames

theorem text (h : st.Alike st') (s : String) : (st.text s).Alike (st'.text s) := by
  obtain ⟨root, fs⟩ := st
  obtain ⟨root', gs⟩ := st'
  cases h.frames with
  | nil => exact ⟨h.root, .nil⟩
  | cons hf hfs =>
    rw [text_cons, text_cons]
    exact ⟨h.root, .cons (hf.hear s) hfs⟩

theorem resume (h : st.Alike st') (f : Field) (r : Option Item) :
    (st.resume f r).Alike (st'.resume f r) := by
  obtain ⟨root, fs⟩ := st
  obtain ⟨root', gs⟩ := st'
  cases r with
  | none => exact h
  | some item =>
    cases h.frames with
    | nil =>
      cases item with
      | node n => exact ⟨rfl, .nil⟩
      | text s => exact ⟨h.root, .nil⟩
      | texts ss => exact ⟨h.root, .nil⟩
    | cons hf hfs => exact ⟨h.root, .cons (hf.add [(f, item)]) hfs⟩

theorem finish (h : st.Alike st') {name : String} (hst : st.finish name = .ok t) :
    ∃ t', st'.finish name = .ok t' ∧ t.Alike t' := by
  obtain ⟨f, fs, r, hfs, hname, hr, rfl⟩ := finish_eq_ok_iff.1 hst
  have hframes := h.frames
  rw [hfs] at hframes
  obtain ⟨g, gs, hf, hgs, hst'⟩ := List.forall₂_cons_left_iff.1 hframes
  have hbelow : ReaderState.Alike ⟨st.root, fs⟩ ⟨st'.root, gs⟩ := ⟨h.root, hgs⟩
  refine ⟨_, finish_eq_ok_iff.2 ⟨g, gs, r, hst', ?_, ?_, rfl⟩, ?_⟩
  · rw [hf.name, hname]
  · rw [← h.names]
    exact hf.result_eq_ok hr
  · rw [hf.field]
    exact hbelow.resume f.field r

theorem step (h : st.Alike st') (hst : st.step limit e = .ok t) :
    ∃ t', st'.step limit e = .ok t' ∧ t.Alike t' := by
  cases e with
  | start name attributes => exact h.start hst
  | text s =>
    cases hst
    exact ⟨_, rfl, h.text s⟩
  | finish name => exact h.finish hst

theorem run (h : st.Alike st') (hst : es.foldlM (ReaderState.step limit) st = .ok t) :
    ∃ t', es.foldlM (ReaderState.step limit) st' = .ok t' ∧ t.Alike t' := by
  induction es generalizing st st' with
  | nil =>
    cases hst
    exact ⟨st', rfl, h⟩
  | cons e es ih =>
    rw [List.foldlM_cons, bind_eq_ok] at hst
    obtain ⟨st₁, hstep, hrun⟩ := hst
    obtain ⟨st₁', hstep', h₁⟩ := h.step hstep
    obtain ⟨t', hrun', ht⟩ := ih h₁ hrun
    refine ⟨t', ?_, ht⟩
    rw [List.foldlM_cons, hstep']
    exact hrun'

theorem result_eq_ok (h : st.Alike st') {root : Node} (hst : st.result = .ok root) :
    st'.result = .ok root := by
  obtain ⟨r, fs⟩ := st
  obtain ⟨r', gs⟩ := st'
  cases h.frames with
  | nil =>
    have hroot : r = r' := h.root
    rw [← hroot]
    exact hst
  | cons _ _ => cases hst

end ReaderState.Alike

end Scaffold.Descriptor
