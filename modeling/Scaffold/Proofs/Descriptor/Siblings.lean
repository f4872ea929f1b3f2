import Scaffold.Proofs.Descriptor.Depth
import Scaffold.Proofs.Descriptor.Likeness
import Scaffold.Proofs.Descriptor.Openings

/-!
# Siblings in another order

Two elements next to each other that go to different fields of their parent may change places
(`siblings_of_different_fields_commute`). Whether the events of an element are accepted depends on
little of the state before them: on the place, on the number of open elements, and on whether the
field of the element is taken (`Element.run_events_iff`). An element leaves the first two as they are
and takes no field but its own. So either order is accepted if the other one is, and the two states
that they lead to are alike.
-/

namespace Scaffold.Descriptor

open Markup (Event Attributes)

/-! ### The place that names lead to -/

/-- The place inside the elements with these names, innermost first, if the grammar has them. -/
def placeIn : List String → Option Place
  | [] => some .document
  | name :: around => (placeIn around).bind fun place => (place.rule? name).map (·.place)

theorem Open.placeIn_eq {fs : List Frame} {os : List Opening} (h : Open fs os) :
    placeIn (os.map (·.name)) = some (ReaderState.place ⟨none, fs⟩) := by
  induction h with
  | nil => rfl
  | @cons f fs o os hf _ ih =>
    obtain ⟨rule, hrule, hplace, -⟩ := hf.rule
    rw [List.map_cons, placeIn, ih, Option.bind_some, hrule, Option.map_some, ← hplace]
    rfl

theorem ReaderState.Reads.placeIn_eq {st : ReaderState} {es : List Event} (h : st.Reads es) :
    placeIn (openNames es) = some st.place :=
  h.opens.placeIn_eq

theorem Place.exists_kind {place : Place} {r r' : Rule} (hr : r ∈ place.rules)
    (hr' : r' ∈ place.rules) (hne : r.field ≠ r'.field) : ∃ kind, place = .node kind := by
  cases place with
  | node kind => exact ⟨kind, rfl⟩
  | text => cases hr
  | document | includes | excludes =>
    cases List.mem_singleton.1 hr
    cases List.mem_singleton.1 hr'
    exact absurd rfl hne

/-! ### The events of one element -/

/-- The element may start here and can be built, by `rule` and into `item`. -/
structure ReaderState.Admits (st : ReaderState) (e : Element) (rule : Rule) (item : Item) :
    Prop where
  listed : st.place.rule? e.name = some rule
  free : st.place.isSingular rule.field = true → st.isFilled rule.field = false
  build : e.build rule.place = some item

/-- The state once such an element has finished. -/
def ReaderState.received (st : ReaderState) (rule : Rule) (item : Item) : ReaderState :=
  st.resume rule.field (item.handed (st.place.isSingular rule.field))

variable {st st' t : ReaderState} {limit : Option Int} {A B : Element} {ra rb : Rule}

namespace Element

mutual

theorem admits_of_run (e : Element) {st st' : ReaderState}
    (h : e.events.foldlM (ReaderState.step limit) st = .ok st') :
    ∃ rule item, st.Admits e rule item ∧ st' = st.received rule item := by
  match e with
  | .mk name attributes body =>
    rw [events, List.foldlM_cons, bind_eq_ok] at h
    obtain ⟨st₁, hstart, h⟩ := h
    obtain ⟨rule, scalars, hrule, hfree, -, hs, rfl⟩ := ReaderState.start_eq_ok_iff.1 hstart
    rw [List.foldlM_append, bind_eq_ok] at h
    obtain ⟨st₂, hbody, h⟩ := h
    obtain ⟨f, rfl, hf⟩ := holds_of_run body st.root (st.opened name rule scalars) st.frames
      (Frame.Holds.opened hrule hfree hs) hbody
    rw [List.foldlM_cons, bind_eq_ok] at h
    obtain ⟨st₃, hfinish, hnil⟩ := h
    cases hnil
    obtain ⟨-, rule', item, hrule', hitem, rfl⟩ := hf.finish_eq_ok_iff.1 hfinish
    cases hrule.symm.trans hrule'
    exact ⟨rule, item, ⟨hrule, hfree, hitem⟩, rfl⟩

theorem holds_of_run (body : List Content) (root : Option Node) (f : Frame) (fs : List Frame)
    {o : Opening} (hf : f.Holds ⟨root, fs⟩ o) {st' : ReaderState}
    (h : (bodyEvents body).foldlM (ReaderState.step limit) ⟨root, f :: fs⟩ = .ok st') :
    ∃ f', st' = ⟨root, f' :: fs⟩ ∧ f'.Holds ⟨root, fs⟩ (o.add body) := by
  -- item by item; an element is run as a whole, and what it becomes is put into the frame
  match body with
  | [] =>
    cases h
    refine ⟨f, rfl, ?_⟩
    simpa [Opening.add] using hf
  | .text s :: body =>
    rw [bodyEvents, List.foldlM_cons, bind_eq_ok] at h
    obtain ⟨st₁, hstep, h⟩ := h
    cases hstep
    rw [ReaderState.text_cons] at h
    obtain ⟨f', rfl, hf'⟩ := holds_of_run body root (f.hear s) fs (hf.hear s) h
    rw [Opening.add_add] at hf'
    exact ⟨f', rfl, hf'⟩
  | .element e :: body =>
    rw [bodyEvents, List.foldlM_append, bind_eq_ok] at h
    obtain ⟨st₁, hrun, h⟩ := h
    obtain ⟨rule, item, hadmits, rfl⟩ := admits_of_run e hrun
    have hrule : f.place.rule? e.name = some rule := hadmits.listed
    have hmem := Place.mem_rules_of_rule? hrule
    have hreceived : ReaderState.received ⟨root, f :: fs⟩ rule item =
        ⟨root, { f with items := f.items ++ rule.entry item } :: fs⟩ :=
      ReaderState.resume_cons hf.place_ne_document hmem item
    have hf₁ := hf.addElement hrule hadmits.build (hf.sole_entry hmem hadmits.free item)
    rw [hreceived] at h
    obtain ⟨f', rfl, hf'⟩ := holds_of_run body root _ fs hf₁ h
    rw [Opening.add_add] at hf'
    exact ⟨f', rfl, hf'⟩

end

/-- No element inside starts too deep when `n` elements are open around it. -/
def FitsIn (limit : Option Int) (n : Nat) (e : Element) : Prop :=
  ∀ d, limit = some d → ∀ m ∈ depthsFrom n e.events, (m : Int) ≤ d

theorem run_events_iff {e : Element} :
    e.events.foldlM (ReaderState.step limit) st = .ok st' ↔
      ∃ rule item, st.Admits e rule item ∧ e.FitsIn limit st.frames.length ∧
        st' = st.received rule item := by
  constructor
  · intro h
    obtain ⟨rule, item, hadmits, hst'⟩ := admits_of_run e h
    refine ⟨rule, item, hadmits, ?_, hst'⟩
    rintro d rfl
    exact depths_le_of_run h
  · rintro ⟨rule, item, hadmits, hfits, rfl⟩
    have hrun := e.run_events st hadmits.listed hadmits.free hadmits.build
    cases limit with
    | none => exact hrun
    | some d => exact (run_eq_of_depths (hfits d rfl)).trans hrun

end Element

/-! ### Two elements -/

namespace ReaderState

variable {rule : Rule} {item : Item}

theorem place_received (st : ReaderState) (rule : Rule) (item : Item) :
    (st.received rule item).place = st.place := by
  obtain ⟨root, fs⟩ := st
  rw [received]
  cases item.handed _ with
  | none => rfl
  | some r =>
    cases fs with
    | nil => cases r <;> rfl
    | cons f fs => rfl

theorem length_received (st : ReaderState) (rule : Rule) (item : Item) :
    (st.received rule item).frames.length = st.frames.length :=
  st.length_resume _ _

section Inside

variable {root : Option Node} {f : Frame} {fs : List Frame}

theorem received_cons (hplace : f.place ≠ .document) (hrule : rule ∈ f.place.rules) (item : Item) :
    received ⟨root, f :: fs⟩ rule item =
      ⟨root, { f with items := f.items ++ rule.entry item } :: fs⟩ :=
  resume_cons hplace hrule item

theorem received_received_cons (hplace : f.place ≠ .document) (ha : ra ∈ f.place.rules)
    (hb : rb ∈ f.place.rules) (a b : Item) :
    (received ⟨root, f :: fs⟩ ra a).received rb b =
      ⟨root, { f with items := f.items ++ ra.entry a ++ rb.entry b } :: fs⟩ := by
  rw [received_cons hplace ha a]
  exact received_cons (f := { f with items := f.items ++ ra.entry a }) hplace hb b

end Inside

theorem isFilled_received {kind : Kind} (hkind : st.place = .node kind)
    (hrule : rule ∈ st.place.rules) (item : Item) {f : Field} (hf : rule.field ≠ f) :
    (st.received rule item).isFilled f = st.isFilled f := by
  obtain ⟨root, fs⟩ := st
  cases fs with
  | nil => cases hkind
  | cons g fs =>
    have hkind : g.place = .node kind := hkind
    rw [received_cons (by simp [hkind]) hrule]
    show (g.items ++ rule.entry item).any (·.1 == f) = g.items.any (·.1 == f)
    have hentry : (rule.entry item).any (·.1 == f) = false := by
      rw [Children.any_eq_false_iff, List.mem_map]
      rintro ⟨c, hc, rfl⟩
      exact hf (Rule.field_of_mem_entry hc).symm
    rw [List.any_append, hentry, Bool.or_false]

theorem admits_received_iff {kind : Kind} (hkind : st.place = .node kind)
    (hrule : rule ∈ st.place.rules) (hne : rule.field ≠ rb.field) {b : Item} :
    (st.received rule item).Admits B rb b ↔ st.Admits B rb b := by
  have hplace := st.place_received rule item
  have hfilled := isFilled_received hkind hrule item hne
  constructor
  · rintro ⟨hb, hfree, hbuild⟩
    rw [hplace] at hb hfree
    rw [hfilled] at hfree
    exact ⟨hb, hfree, hbuild⟩
  · rintro ⟨hb, hfree, hbuild⟩
    rw [← hplace] at hb hfree
    rw [← hfilled] at hfree
    exact ⟨hb, hfree, hbuild⟩

theorem received_comm {kind : Kind} (hkind : st.place = .node kind) (ha : ra ∈ st.place.rules)
    (hb : rb ∈ st.place.rules) (hne : ra.field ≠ rb.field) (a b : Item) :
    ((st.received ra a).received rb b).Alike ((st.received rb b).received ra a) := by
  obtain ⟨root, fs⟩ := st
  cases fs with
  | nil => cases hkind
  | cons f fs =>
    have hkind : f.place = .node kind := hkind
    have hplace : f.place ≠ .document := by simp [hkind]
    rw [received_received_cons hplace ha hb, received_received_cons hplace hb ha]
    refine ⟨rfl, .cons ⟨rfl, ?_, fun h => absurd hkind (h kind)⟩ ?_⟩
    · exact Children.Alike.swap (fun c => Rule.field_of_mem_entry) (fun c => Rule.field_of_mem_entry)
        hne f.items
    · exact List.forall₂_same.2 fun g _ => .refl g

/-- The one element has to be admitted, and the other one by the state that it leads to. -/
theorem run_pair_iff (ha : st.place.rule? A.name = some ra) (hb : st.place.rule? B.name = some rb) :
    (A.events ++ B.events).foldlM (step limit) st = .ok t ↔
      ∃ a b, st.Admits A ra a ∧ (st.received ra a).Admits B rb b ∧
        A.FitsIn limit st.frames.length ∧ B.FitsIn limit st.frames.length ∧
        t = (st.received ra a).received rb b := by
  rw [List.foldlM_append, bind_eq_ok]
  constructor
  · rintro ⟨st₁, hrunA, hrunB⟩
    obtain ⟨ra', a, hadmA, hfitA, rfl⟩ := Element.run_events_iff.1 hrunA
    obtain ⟨rb', b, hadmB, hfitB, rfl⟩ := Element.run_events_iff.1 hrunB
    cases ha.symm.trans hadmA.listed
    have hlisted := hadmB.listed
    rw [place_received, hb] at hlisted
    cases hlisted
    rw [length_received] at hfitB
    exact ⟨a, b, hadmA, hadmB, hfitA, hfitB, rfl⟩
  · rintro ⟨a, b, hadmA, hadmB, hfitA, hfitB, rfl⟩
    refine ⟨_, Element.run_events_iff.2 ⟨ra, a, hadmA, hfitA, rfl⟩, ?_⟩
    refine Element.run_events_iff.2 ⟨rb, b, hadmB, ?_, rfl⟩
    rw [length_received]
    exact hfitB

theorem run_swap (ha : st.place.rule? A.name = some ra) (hb : st.place.rule? B.name = some rb)
    (hne : ra.field ≠ rb.field)
    (h : (A.events ++ B.events).foldlM (step limit) st = .ok t) :
    ∃ t', (B.events ++ A.events).foldlM (step limit) st = .ok t' ∧ t.Alike t' := by
  have hmema := Place.mem_rules_of_rule? ha
  have hmemb := Place.mem_rules_of_rule? hb
  obtain ⟨kind, hkind⟩ := Place.exists_kind hmema hmemb hne
  obtain ⟨a, b, hadmA, hadmB, hfitA, hfitB, rfl⟩ := (run_pair_iff ha hb).1 h
  rw [admits_received_iff hkind hmema hne] at hadmB
  rw [← admits_received_iff hkind hmemb hne.symm] at hadmA
  refine ⟨_, (run_pair_iff hb ha).2 ⟨b, a, hadmB, hadmA, hfitB, hfitA, rfl⟩, ?_⟩
  exact received_comm hkind hmema hmemb hne a b

end ReaderState

/-! ### Documents -/

section Documents

variable {before after : List Event} {place : Place}

theorem place_eq_of_run (hplace : placeIn (openNames before) = some place)
    (hst : before.foldlM (ReaderState.step limit) {} = .ok st) : st.place = place := by
  have h := (ReaderState.Reads.run hst).placeIn_eq
  rw [hplace] at h
  exact (Option.some.inj h).symm

theorem read_swap {script : Node}
    (hplace : placeIn (openNames before) = some place) (ha : place.rule? A.name = some ra)
    (hb : place.rule? B.name = some rb) (hne : ra.field ≠ rb.field)
    (h : read limit (before ++ A.events ++ B.events ++ after) = .ok script) :
    read limit (before ++ B.events ++ A.events ++ after) = .ok script := by
  obtain ⟨t₂, hrun, hscript⟩ := bind_eq_ok.1 h
  rw [List.foldlM_append, bind_eq_ok] at hrun
  obtain ⟨t, hrun, hafter⟩ := hrun
  rw [List.append_assoc, List.foldlM_append, bind_eq_ok] at hrun
  obtain ⟨st, hbefore, hmiddle⟩ := hrun
  cases place_eq_of_run hplace hbefore
  obtain ⟨t', hmiddle', ht⟩ := ReaderState.run_swap ha hb hne hmiddle
  obtain ⟨t₂', hafter', ht₂⟩ := ht.run hafter
  refine bind_eq_ok.2 ⟨t₂', ?_, ht₂.result_eq_ok hscript⟩
  rw [List.foldlM_append, bind_eq_ok]
  refine ⟨t', ?_, hafter'⟩
  rw [List.append_assoc, List.foldlM_append, bind_eq_ok]
  exact ⟨st, hbefore, hmiddle'⟩

theorem frames_of_run_pair {f : Frame} {fs : List Frame} (ha : st.place.rule? A.name = some ra)
    (hb : st.place.rule? B.name = some rb)
    (hbefore : before.foldlM (ReaderState.step limit) {} = .ok st) (hfs : st.frames = f :: fs)
    (h : (A.events ++ B.events).foldlM (ReaderState.step limit) st = .ok t) :
    ∃ a b, A.build ra.place = some a ∧ B.build rb.place = some b ∧
      t.frames = { f with items := f.items ++ ra.entry a ++ rb.entry b } :: fs := by
  obtain ⟨root, frames⟩ := st
  cases hfs
  obtain ⟨a, b, hadmA, hadmB, -, -, rfl⟩ := (ReaderState.run_pair_iff ha hb).1 h
  refine ⟨a, b, hadmA.build, hadmB.build, ?_⟩
  obtain ⟨o, os, -, hf⟩ := (ReaderState.Reads.run hbefore).opens.exists_opening
  rw [ReaderState.received_received_cons hf.place_ne_document (Place.mem_rules_of_rule? ha)
    (Place.mem_rules_of_rule? hb)]

end Documents

/-- **Siblings that go to different fields commute.** Where the grammar sends the elements `A` and `B`
to different fields of the element that is open, a document with `A` before `B` is read exactly if it
is read with `B` before `A`, and to the same root. Whatever their fields are, the open element takes up
what `A` becomes and then what `B` becomes; so in one field they keep the order of the document. -/
theorem siblings_of_different_fields_commute (limit : Option Int) (before after : List Event)
    (A B : Element) (place : Place) (ra rb : Rule)
    (hplace : placeIn (openNames before) = some place) (ha : place.rule? A.name = some ra)
    (hb : place.rule? B.name = some rb) :
    (ra.field ≠ rb.field → ∀ script,
      read limit (before ++ A.events ++ B.events ++ after) = .ok script ↔
        read limit (before ++ B.events ++ A.events ++ after) = .ok script) ∧
    ∀ st f fs st', before.foldlM (ReaderState.step limit) {} = .ok st → st.frames = f :: fs →
      (before ++ A.events ++ B.events).foldlM (ReaderState.step limit) {} = .ok st' →
      ∃ a b, A.build ra.place = some a ∧ B.build rb.place = some b ∧
        st'.frames = { f with items := f.items ++ ra.entry a ++ rb.entry b } :: fs := by
  refine ⟨fun hne script => ⟨read_swap hplace ha hb hne, read_swap hplace hb ha hne.symm⟩, ?_⟩
  intro st f fs st' hbefore hfs hrun
  cases place_eq_of_run hplace hbefore
  rw [List.append_assoc, List.foldlM_append, bind_eq_ok] at hrun
  obtain ⟨st₁, hst₁, hrun⟩ := hrun
  cases hbefore.symm.trans hst₁
  exact frames_of_run_pair ha hb hbefore hfs hrun

theorem siblings_in_script_and_in_input :
    (∃ script,
      read none ([.start "archetype-script" []] ++ (Element.mk "help" [] [.text "h"]).events ++
        (Element.mk "step" [("label", some "s")] []).events ++ [.finish "archetype-script"]) =
          .ok script ∧
      read none ([.start "archetype-script" []] ++
        (Element.mk "step" [("label", some "s")] []).events ++
        (Element.mk "help" [] [.text "h"]).events ++ [.finish "archetype-script"]) =
          .ok script) ∧
    ∃ st f fs a b,
      ([Event.start "archetype-script" [], .start "input" []] ++
        (Element.mk "enum" [("name", some "e")] []).events ++
        (Element.mk "text" [("name", some "t")] []).events).foldlM (ReaderState.step none) {} =
          .ok st ∧
      (Element.mk "enum" [("name", some "e")] []).build (.node .inputEnum) = some a ∧
      (Element.mk "text" [("name", some "t")] []).build (.node .inputText) = some b ∧
      st.frames = f :: fs ∧ f.items = [(.inputs, a), (.inputs, b)] := by
  constructor
  · have hcommute := siblings_of_different_fields_commute none [.start "archetype-script" []]
      [.finish "archetype-script"] (.mk "help" [] [.text "h"])
      (.mk "step" [("label", some "s")] []) (.node .script) Rule.help
      (Rule.node "step" .step .steps) rfl rfl rfl
    exact ⟨_, rfl, (hcommute.1 (by decide) _).1 rfl⟩
  · have horder := siblings_of_different_fields_commute none
      [.start "archetype-script" [], .start "input" []] []
      (.mk "enum" [("name", some "e")] []) (.mk "text" [("name", some "t")] [])
      (.node .inputBlock) (Rule.node "enum" .inputEnum .inputs)
      (Rule.node "text" .inputText .inputs) rfl rfl rfl
    obtain ⟨a, b, ha, hb, hframes⟩ := horder.2 _ _ _ _ rfl rfl rfl
    exact ⟨_, _, _, a, b, rfl, ha, hb, hframes, by cases ha; cases hb; rfl⟩

end Scaffold.Descriptor
