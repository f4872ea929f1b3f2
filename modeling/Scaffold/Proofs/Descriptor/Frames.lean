import Mathlib.Data.List.Induction
import Scaffold.Descriptor.Reader
import Scaffold.Proofs.Descriptor.Assembly

/-!
# Open elements

A frame of the reader holds an element of which the start and a part of the body have been read
(`Frame.Holds`): its items are the children built so far, and its text is the text so far. So what a
frame hands on when its element finishes is what the element becomes as a tree
(`Holds.result_eq_ok_iff`).
-/

namespace Scaffold.Descriptor

open Markup (Event Attributes)

/-! ### The grammar -/

section Rules

variable {kind : Kind} {place : Place} {name : String} {rule : Rule} {body : List Content}
  {children : Children}

theorem Kind.of_mem_rules (h : rule ∈ kind.rules) :
    rule.place ≠ .document ∧ (kind.declaration? rule.field).isSome ∧
      (Place.node kind).isSingular rule.field = decide (rule.field ∈ Children.soleFields) := by
  revert rule
  cases kind <;> decide

theorem Place.mem_rules_of_rule? (h : place.rule? name = some rule) : rule ∈ place.rules :=
  List.mem_of_find?_eq_some h

theorem Place.place_ne_document (h : rule ∈ place.rules) : rule.place ≠ .document := by
  cases place with
  | node kind => exact (Kind.of_mem_rules h).1
  | document | text | includes | excludes => revert rule; decide

theorem Place.isSingular_eq (hplace : place ≠ .document) (h : rule ∈ place.rules) :
    place.isSingular rule.field = decide (rule.field ∈ Children.soleFields) := by
  cases place with
  | document => exact absurd rfl hplace
  | node kind => exact (Kind.of_mem_rules h).2.2
  | text | includes | excludes => revert rule; decide

theorem Rule.field_of_mem_entry {item : Item} {c : Field × Item} (h : c ∈ rule.entry item) :
    c.1 = rule.field := by
  unfold entry at h
  split at h
  · cases h
  · rw [List.mem_singleton.1 h]

theorem Element.exists_rule_of_buildBody (h : buildBody place body = some children) :
    ∀ c ∈ children, ∃ rule ∈ place.rules, rule.field = c.1 := by
  induction body generalizing children with
  | nil => cases h; simp
  | cons b body ih =>
    cases b with
    | text s => exact ih h
    | element e =>
      simp only [buildBody, Option.bind_eq_bind, Option.bind_eq_some_iff] at h
      obtain ⟨rule, hrule, item, -, rest, hrest, h⟩ := h
      cases h
      refine List.forall_mem_append.2 ⟨fun c hc => ?_, ih hrest⟩
      exact ⟨rule, Place.mem_rules_of_rule? hrule, (Rule.field_of_mem_entry hc).symm⟩

end Rules

/-! ### Children of which some may stand once -/

namespace Children

variable {xs ys : Children} {f : Field} {item : Item}

theorem Sole.of_append (h : Sole (xs ++ ys)) : Sole xs := by
  intro f hf
  have := h f hf
  rw [List.map_append, List.count_append] at this
  omega

theorem any_eq_false_iff : xs.any (·.1 == f) = false ↔ f ∉ xs.map (·.1) := by
  rw [List.any_eq_false, List.mem_map, not_exists]
  simp only [beq_iff_eq, not_and]

/-- A child that may stand once has to be the first of its field. -/
theorem Sole.snoc_iff (h : Sole xs) :
    Sole (xs ++ [(f, item)]) ↔ (f ∈ soleFields → xs.any (·.1 == f) = false) := by
  simp only [any_eq_false_iff, ← List.count_eq_zero]
  constructor
  · intro hs hf
    have := hs f hf
    simp only [List.map_append, List.count_append, List.map_singleton, List.count_singleton_self]
      at this
    omega
  · intro hf g hg
    have := h g hg
    simp only [List.map_append, List.count_append, List.map_singleton, List.count_singleton]
    split
    · next heq =>
      have : f = g := by simpa using heq
      subst this
      have := hf hg
      omega
    · omega

end Children

/-! ### Steps of the reader -/

namespace ReaderState

variable {st st' : ReaderState} {limit : Option Int} {name : String} {attributes : Attributes}

def opened (st : ReaderState) (name : String) (rule : Rule) (scalars : List (Field × Scalar)) :
    Frame where
  name := name
  place := rule.place
  field := rule.field
  singular := st.place.isSingular rule.field
  scalars := scalars

/-- An element may start where a rule lists it, once where it may stand once, not too deep, and with
attributes that can be converted. -/
theorem start_eq_ok_iff :
    st.start limit name attributes = .ok st' ↔
      ∃ rule scalars, st.place.rule? name = some rule ∧
        (st.place.isSingular rule.field = true → st.isFilled rule.field = false) ∧
        (limit.filter fun n : Int => n < st.frames.length + 1) = none ∧
        openScalars rule.place ⟨name, pathOf (name :: st.names)⟩ attributes = .ok scalars ∧
        st' = ⟨st.root, st.opened name rule scalars :: st.frames⟩ := by
  constructor
  · intro h
    cases hrule : st.place.rule? name with
    | none =>
      simp only [start, hrule] at h
      cases h
    | some rule =>
      simp only [start, hrule] at h
      split at h
      · split at h <;> cases h
      · next hfree =>
        split at h
        · cases h
        · next hlimit =>
          obtain ⟨scalars, hs, h⟩ := bind_eq_ok.1 h
          cases h
          exact ⟨rule, scalars, rfl, by simpa using hfree, hlimit, hs, rfl⟩
  · rintro ⟨rule, scalars, hrule, hfree, hlimit, hs, rfl⟩
    unfold start
    simp only [hrule, hlimit]
    rw [if_neg (by simpa using hfree), hs]
    rfl

/-- The state after a child element has handed `r`, if that is anything, to the field `f`. -/
def resume (st : ReaderState) (f : Field) : Option Item → ReaderState
  | none => st
  | some item => st.attach f item

/-- The innermost element may finish, under its own name and if it has a result. -/
theorem finish_eq_ok_iff :
    st.finish name = .ok st' ↔
      ∃ f fs r, st.frames = f :: fs ∧ f.name = name ∧ f.result (pathOf st.names) = .ok r ∧
        st' = resume ⟨st.root, fs⟩ f.field r := by
  constructor
  · intro h
    unfold finish at h
    split at h
    · cases h
    · next f fs hfs =>
      split at h
      · cases h
      · next hname =>
        obtain ⟨r, hr, h⟩ := bind_eq_ok.1 h
        refine ⟨f, fs, r, hfs, not_not.1 hname, hr, ?_⟩
        cases r <;> cases h <;> rfl
  · rintro ⟨f, fs, r, hfs, hname, hr, rfl⟩
    unfold finish
    simp only [hfs]
    rw [if_neg (not_not.2 hname), hr]
    cases r <;> rfl

/-- What holds at first and is kept by every event holds after all events. -/
theorem run_induction {P : ReaderState → List Event → Prop} (hinit : P {} [])
    (hstep : ∀ st st' es e, P st es → st.step limit e = .ok st' → P st' (es ++ [e]))
    {es : List Event} (hst : es.foldlM (ReaderState.step limit) {} = .ok st) : P st es := by
  induction es using List.reverseRecOn generalizing st with
  | nil => cases hst; exact hinit
  | append_singleton es e ih =>
    rw [List.foldlM_append, bind_eq_ok] at hst
    obtain ⟨st₁, hrun, hst⟩ := hst
    rw [List.foldlM_cons, bind_eq_ok] at hst
    obtain ⟨st₂, hst, hnil⟩ := hst
    cases hnil
    exact hstep st₁ st es e (ih hrun) hst

end ReaderState

/-! ### Frames of open elements -/

/-- An element that has not finished: its start, and what has come of its body. -/
structure Opening where
  name : String
  attributes : Attributes
  body : List Content := []

namespace Opening

/-- The events that have come of the element. -/
def events (o : Opening) : List Event := .start o.name o.attributes :: Element.bodyEvents o.body

/-- The element, should it finish now. -/
def element (o : Opening) : Element := .mk o.name o.attributes o.body

def add (o : Opening) (body : List Content) : Opening := { o with body := o.body ++ body }

theorem events_add (o : Opening) (body : List Content) :
    (o.add body).events = o.events ++ Element.bodyEvents body := by
  simp [events, add, Element.bodyEvents_append]

theorem events_element (o : Opening) : o.element.events = o.events ++ [.finish o.name] := by
  simp [events, element, Element.events]

end Opening

/-- What an element hands on: an empty text goes nowhere, unless it may stand once. -/
def Item.handed (item : Item) (singular : Bool) : Option Item :=
  if item.isEmptyText ∧ singular = false then none else some item

def Frame.hear (f : Frame) (s : String) : Frame :=
  if f.place.keepsText then { f with text := f.text ++ s } else f

@[simp] theorem Frame.hear_place (f : Frame) (s : String) : (f.hear s).place = f.place := by
  unfold hear
  split <;> rfl

@[simp] theorem Frame.hear_items (f : Frame) (s : String) : (f.hear s).items = f.items := by
  unfold hear
  split <;> rfl

theorem ReaderState.text_cons {root : Option Node} {f : Frame} {fs : List Frame} (s : String) :
    ReaderState.text ⟨root, f :: fs⟩ s = ⟨root, f.hear s :: fs⟩ := by
  simp only [ReaderState.text, Frame.hear]
  split <;> rfl

/-- The frame `f` holds what has come of `o`, an element that started when the state was `below`. -/
structure Frame.Holds (below : ReaderState) (f : Frame) (o : Opening) : Prop where
  name : f.name = o.name
  rule : ∃ rule, below.place.rule? o.name = some rule ∧ f.place = rule.place ∧ f.field = rule.field
  singular : f.singular = below.place.isSingular f.field
  /-- An element that may stand once is the first of its field. -/
  free : f.singular = true → below.isFilled f.field = false
  scalars : ∃ site, ReaderState.openScalars f.place site o.attributes = .ok f.scalars
  items : Element.buildBody f.place o.body = some f.items
  sole : Children.Sole f.items
  text : f.text = if f.place.keepsText then Element.ownText o.body else ""

namespace Frame.Holds

variable {below : ReaderState} {f : Frame} {o : Opening}

theorem opened {name : String} {rule : Rule} {attributes : Attributes} {site : Site}
    {scalars : List (Field × Scalar)} (hrule : below.place.rule? name = some rule)
    (hfree : below.place.isSingular rule.field = true → below.isFilled rule.field = false)
    (hs : ReaderState.openScalars rule.place site attributes = .ok scalars) :
    (below.opened name rule scalars).Holds below ⟨name, attributes, []⟩ where
  name := rfl
  rule := ⟨rule, hrule, rfl, rfl⟩
  singular := rfl
  free := hfree
  scalars := ⟨site, hs⟩
  items := rfl
  sole := by intro f _; simp [ReaderState.opened]
  text := (ite_self _).symm

theorem hear (h : f.Holds below o) (s : String) : (f.hear s).Holds below (o.add [.text s]) := by
  have hitems : Element.buildBody f.place (o.body ++ [.text s]) = some f.items := by
    have hnil : Element.buildBody f.place [.text s] = some [] := rfl
    simpa using Element.buildBody_append h.items hnil
  unfold Frame.hear
  split
  · next hkeep =>
    refine ⟨h.name, h.rule, h.singular, h.free, h.scalars, hitems, h.sole, ?_⟩
    simp only [h.text, if_pos hkeep, Opening.add, Element.ownText_append, Element.ownText,
      String.append_empty]
  · next hkeep =>
    refine ⟨h.name, h.rule, h.singular, h.free, h.scalars, hitems, h.sole, ?_⟩
    rw [h.text, if_neg hkeep, if_neg hkeep]

theorem addElement (h : f.Holds below o) {e : Element} {rule : Rule} {item : Item}
    (hrule : f.place.rule? e.name = some rule) (hitem : e.build rule.place = some item)
    (hsole : Children.Sole (f.items ++ rule.entry item)) :
    { f with items := f.items ++ rule.entry item }.Holds below (o.add [.element e]) := by
  refine ⟨h.name, h.rule, h.singular, h.free, h.scalars, ?_, hsole, ?_⟩
  · have hentry : Element.buildBody f.place [.element e] = some (rule.entry item) := by
      simp [Element.buildBody, hrule, hitem]
    exact Element.buildBody_append h.items hentry
  · simp only [h.text, Opening.add, Element.ownText_append, Element.ownText, String.append_empty]

theorem place_ne_document (h : f.Holds below o) : f.place ≠ .document := by
  obtain ⟨rule, hrule, hplace, -⟩ := h.rule
  rw [hplace]
  exact Place.place_ne_document (Place.mem_rules_of_rule? hrule)

theorem free_of_rule (h : f.Holds below o) {rule : Rule}
    (hrule : below.place.rule? o.name = some rule)
    (hsingular : below.place.isSingular rule.field = true) : below.isFilled rule.field = false := by
  obtain ⟨rule', hrule', -, hfield⟩ := h.rule
  cases hrule.symm.trans hrule'
  rw [← hfield] at hsingular ⊢
  exact h.free (h.singular.trans hsingular)

theorem build_eq (h : f.Holds below o) :
    o.element.build f.place = f.place.item? o.attributes (Element.ownText o.body) f.items := by
  simp [Opening.element, Element.build, h.items, h.sole]

theorem node?_text (h : f.Holds below o) {kind : Kind} (hplace : f.place = .node kind) :
    kind.node? o.attributes (Element.ownText o.body) f.items =
      kind.node? o.attributes f.text f.items := by
  have htext := h.text
  by_cases hkeep : (Place.node kind).keepsText = true
  · rw [htext, hplace, if_pos hkeep]
  · exact node?_congr_text (by simpa using hkeep) _

theorem exists_assembled (h : f.Holds below o) {kind : Kind} (hplace : f.place = .node kind)
    {site : Site} {content : List (Field × Scalar)}
    (hc : kind.readContent site f.text = .ok content) :
    ∃ n, Node.assemble kind ⟨f.scalars ++ content, f.items⟩ = .ok n ∧
      kind.node? o.attributes f.text f.items = some n := by
  obtain ⟨site', hs⟩ := h.scalars
  have hitems := h.items
  rw [hplace] at hs hitems
  refine exists_assemble hs hc fun c hc => ?_
  obtain ⟨rule, hrule, hfield⟩ := Element.exists_rule_of_buildBody hitems c hc
  exact hfield ▸ (Kind.of_mem_rules hrule).2.1

theorem result_node_iff (h : f.Holds below o) {kind : Kind} (hplace : f.place = .node kind)
    {path : String} {r : Option Item} :
    f.result path = .ok r ↔
      ∃ n, kind.node? o.attributes f.text f.items = some n ∧ r = some (.node n) := by
  simp only [Frame.result, hplace, bind_eq_ok, mapError_eq_ok]
  constructor
  · rintro ⟨content, hc, n, hn, hr⟩
    cases hr
    obtain ⟨n', hn', hnode⟩ := h.exists_assembled hplace hc
    rw [hn] at hn'
    cases hn'
    exact ⟨n, hnode, rfl⟩
  · rintro ⟨n, hnode, rfl⟩
    obtain ⟨content, hc⟩ := exists_readContent hnode ⟨f.name, path⟩
    obtain ⟨n', hn', hnode'⟩ := h.exists_assembled hplace hc
    rw [hnode] at hnode'
    cases hnode'
    exact ⟨content, hc, n, hn', rfl⟩

/-- When an element finishes it hands on what it becomes as a tree. -/
theorem result_eq_ok_iff (h : f.Holds below o) {path : String} {r : Option Item} :
    f.result path = .ok r ↔
      ∃ item, o.element.build f.place = some item ∧ r = item.handed f.singular := by
  rw [h.build_eq]
  cases hplace : f.place with
  | document => exact absurd hplace h.place_ne_document
  | node kind =>
    rw [h.result_node_iff hplace, Place.item?, h.node?_text hplace]
    constructor
    · rintro ⟨n, hn, rfl⟩
      exact ⟨.node n, by rw [hn]; rfl, by simp [Item.handed, Item.isEmptyText]⟩
    · rintro ⟨item, hitem, rfl⟩
      obtain ⟨n, hn, rfl⟩ := Option.map_eq_some_iff.1 hitem
      exact ⟨n, hn, by simp [Item.handed, Item.isEmptyText]⟩
  | text =>
    have htext : f.text = Element.ownText o.body := by simpa [hplace, Place.keepsText] using h.text
    simp only [Frame.result, Place.item?, hplace, htext, Option.some.injEq, exists_eq_left',
      Except.ok.injEq, Item.handed, Item.isEmptyText, beq_iff_eq, Bool.not_eq_true]
    exact eq_comm
  | includes | excludes =>
    simp only [Frame.result, Place.item?, hplace, Option.some.injEq, exists_eq_left',
      Except.ok.injEq, Item.handed, Item.isEmptyText, Bool.false_eq_true, false_and, if_false]
    exact eq_comm

/-- An element finishes, under its own name, if it can be built; what it becomes is handed on. -/
theorem finish_eq_ok_iff (h : f.Holds below o) {name : String} {st : ReaderState} :
    ReaderState.finish ⟨below.root, f :: below.frames⟩ name = .ok st ↔
      name = o.name ∧ ∃ rule item, below.place.rule? o.name = some rule ∧
        o.element.build rule.place = some item ∧
        st = below.resume rule.field (item.handed (below.place.isSingular rule.field)) := by
  obtain ⟨rule, hrule, hplace, hfield⟩ := h.rule
  rw [ReaderState.finish_eq_ok_iff]
  constructor
  · rintro ⟨_, _, r, hfs, rfl, hr, rfl⟩
    cases hfs
    obtain ⟨item, hitem, rfl⟩ := h.result_eq_ok_iff.1 hr
    refine ⟨h.name, rule, item, hrule, hplace ▸ hitem, ?_⟩
    rw [h.singular, hfield]
  · rintro ⟨rfl, rule', item, hrule', hitem, rfl⟩
    cases hrule.symm.trans hrule'
    refine ⟨f, below.frames, _, rfl, h.name, h.result_eq_ok_iff.2 ⟨item, hplace ▸ hitem, rfl⟩, ?_⟩
    rw [h.singular, hfield]

end Frame.Holds

end Scaffold.Descriptor
