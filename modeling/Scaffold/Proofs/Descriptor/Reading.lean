import Scaffold.Proofs.Descriptor.Frames

/-!
# Reading a document and building its tree

`read_computes_build`: the reader accepts the events of a document exactly when they are those of one
root element, with nothing but text around it, and the element can be built; and it returns what the
element becomes. One way, the state after any events spells them out again (`ReaderState.Reads`): the
open elements with the bodies read so far, or the finished root. The other way, the events of an
element that can be built lead from any state that lets it start to the state that has received what
it becomes (`Element.run_events`).
-/

namespace Scaffold.Descriptor

open Markup (Event Attributes)

def texts (ss : List String) : List Event := ss.map .text

/-! ### What arrives at a frame -/

section Arrival

variable {root : Option Node} {f : Frame} {fs : List Frame} {rule : Rule}

theorem Place.rule?_document {name : String} (h : Place.document.rule? name = some rule) :
    name = rootElement ∧ rule = Rule.node rootElement .script .nodes := by
  have hmem : rule ∈ [Rule.node rootElement .script .nodes] := Place.mem_rules_of_rule? h
  have hname : rule.element = name := by simpa using List.find?_some h
  rw [List.mem_singleton] at hmem
  subst hmem
  exact ⟨hname.symm, rfl⟩

theorem Element.exists_node_of_build {e : Element} {kind : Kind} {item : Item}
    (h : e.build (.node kind) = some item) : ∃ n, item = .node n := by
  cases e with
  | mk name attributes body =>
    obtain ⟨children, -, -, h⟩ := build_eq_some_iff.1 h
    obtain ⟨n, -, rfl⟩ := Option.map_eq_some_iff.1 h
    exact ⟨n, rfl⟩

theorem ReaderState.resume_cons (hplace : f.place ≠ .document) (hrule : rule ∈ f.place.rules)
    (item : Item) :
    resume ⟨root, f :: fs⟩ rule.field (item.handed (f.place.isSingular rule.field)) =
      ⟨root, { f with items := f.items ++ rule.entry item } :: fs⟩ := by
  simp only [Place.isSingular_eq hplace hrule, Rule.entry, Item.handed, decide_eq_false_iff_not]
  split
  · simp [resume]
  · rfl

theorem Frame.Holds.sole_entry {below : ReaderState} {o : Opening} (h : f.Holds below o)
    (hrule : rule ∈ f.place.rules)
    (hfree : f.place.isSingular rule.field = true → f.items.any (·.1 == rule.field) = false)
    (item : Item) : Children.Sole (f.items ++ rule.entry item) := by
  unfold Rule.entry
  split
  · simpa using h.sole
  · rw [Place.isSingular_eq h.place_ne_document hrule, decide_eq_true_eq] at hfree
    exact h.sole.snoc_iff.2 hfree

end Arrival

/-! ### From events to trees -/

/-- The frames hold the open elements, innermost first. -/
inductive Open : List Frame → List Opening → Prop
  | nil : Open [] []
  | cons {f : Frame} {fs : List Frame} {o : Opening} {os : List Opening}
      (h : f.Holds ⟨none, fs⟩ o) (hs : Open fs os) : Open (f :: fs) (o :: os)

/-- The events that have come of the open elements, innermost first. -/
def openEvents : List Opening → List Event
  | [] => []
  | o :: os => openEvents os ++ o.events

/-- What the state of the reader says about the events so far. -/
inductive ReaderState.Reads : ReaderState → List Event → Prop
  | inside {fs : List Frame} {os : List Opening} {es : List Event} (before : List String)
      (h : Open fs os) (hes : es = texts before ++ openEvents os) : Reads ⟨none, fs⟩ es
  | behind {root : Node} {es : List Event} (before after : List String) (e : Element)
      (hname : e.name = rootElement) (h : e.build (.node .script) = some (.node root))
      (hes : es = texts before ++ e.events ++ texts after) : Reads ⟨some root, []⟩ es

namespace ReaderState.Reads

variable {st st' : ReaderState} {limit : Option Int} {es : List Event} {name : String}

theorem initial : Reads {} [] := .inside [] .nil rfl

theorem start {attributes : Attributes} (h : st.Reads es)
    (hst : st.start limit name attributes = .ok st') : st'.Reads (es ++ [.start name attributes]) := by
  obtain ⟨rule, scalars, hrule, hfree, -, hs, rfl⟩ := start_eq_ok_iff.1 hst
  cases h with
  | inside before hopen hes =>
    refine .inside before (.cons (Frame.Holds.opened hrule hfree hs) hopen) ?_
    rw [hes, List.append_assoc]
    rfl
  | behind before after e hname hb hes =>
    -- the root is there, so a second one may not start
    cases hfree rfl

theorem text (h : st.Reads es) (s : String) : (st.text s).Reads (es ++ [.text s]) := by
  cases h with
  | inside before hopen hes =>
    cases hopen with
    | nil => exact .inside (before ++ [s]) .nil (by simp [hes, texts, openEvents])
    | @cons f fs o os hf hopen =>
      rw [text_cons]
      refine .inside before (.cons (hf.hear s) hopen) ?_
      rw [hes, openEvents, openEvents, Opening.events_add]
      simp [Element.bodyEvents]
  | behind before after e hname hb hes =>
    exact .behind before (after ++ [s]) e hname hb (by simp [hes, texts])

theorem finish (h : st.Reads es) (hst : st.finish name = .ok st') :
    st'.Reads (es ++ [.finish name]) := by
  cases h with
  | behind before after e hname hb hes => cases hst
  | inside before hopen hes =>
    cases hopen with
    | nil => cases hst
    | @cons f fs o os hf hopen =>
      obtain ⟨rfl, rule, item, hrule, hitem, rfl⟩ := hf.finish_eq_ok_iff.1 hst
      cases hopen with
      | nil =>
        obtain ⟨hroot, rfl⟩ := Place.rule?_document hrule
        obtain ⟨n, rfl⟩ := Element.exists_node_of_build hitem
        refine .behind before [] o.element hroot hitem ?_
        simp [hes, openEvents, Opening.events_element, texts]
      | @cons g gs o' os hg hopen =>
        have hmem : rule ∈ g.place.rules := Place.mem_rules_of_rule? hrule
        rw [show ReaderState.place ⟨none, g :: gs⟩ = g.place from rfl,
          resume_cons hg.place_ne_document hmem]
        refine .inside before (.cons (hg.addElement (e := o.element) hrule hitem ?_) hopen) ?_
        · exact hg.sole_entry hmem (hf.free_of_rule hrule) item
        · simp [hes, openEvents, Opening.events_add, Opening.events_element, Element.bodyEvents]

theorem step {e : Event} (h : st.Reads es) (hst : st.step limit e = .ok st') :
    st'.Reads (es ++ [e]) := by
  cases e with
  | start name attributes => exact h.start hst
  | text s => cases hst; exact h.text s
  | finish name => exact h.finish hst

theorem run (hst : es.foldlM (ReaderState.step limit) {} = .ok st) : st.Reads es :=
  run_induction initial (fun _ _ _ _ h hst => h.step hst) hst

theorem result {root : Node} (h : st.Reads es) (hst : st.result = .ok root) :
    ∃ (before : List String) (e : Element) (after : List String),
      es = texts before ++ e.events ++ texts after ∧ e.name = rootElement ∧
        e.build (.node .script) = some (.node root) := by
  cases h with
  | @inside fs os _ before hopen hes => cases fs <;> cases hst
  | behind before after e hname hb hes =>
    cases hst
    exact ⟨before, e, after, hes, hname, hb⟩

end ReaderState.Reads

/-! ### From trees to events -/

section Run

variable {st st' : ReaderState} {es es' : List Event}

theorem foldlM_append_of_ok (h : es.foldlM (ReaderState.step none) st = .ok st') :
    (es ++ es').foldlM (ReaderState.step none) st = es'.foldlM (ReaderState.step none) st' := by
  rw [List.foldlM_append, h]
  rfl

theorem foldlM_cons_of_ok {e : Event} (h : st.step none e = .ok st') :
    (e :: es).foldlM (ReaderState.step none) st = es.foldlM (ReaderState.step none) st' := by
  rw [List.foldlM_cons, h]
  rfl

theorem foldlM_texts {root : Option Node} (ss : List String) :
    (texts ss).foldlM (ReaderState.step none) ⟨root, []⟩ = .ok ⟨root, []⟩ := by
  induction ss with
  | nil => rfl
  | cons s ss ih =>
    have hstep : ReaderState.step none ⟨root, []⟩ (.text s) = .ok ⟨root, []⟩ := rfl
    exact (foldlM_cons_of_ok hstep).trans ih

end Run

theorem exists_openScalars {place : Place} {attributes : Attributes} {text : String}
    {children : Children} {item : Item} (h : place.item? attributes text children = some item)
    (site : Site) : ∃ scalars, ReaderState.openScalars place site attributes = .ok scalars := by
  cases place with
  | node kind =>
    obtain ⟨n, hn, -⟩ := Option.map_eq_some_iff.1 h
    exact exists_readAttributes hn site
  | document | text | includes | excludes => exact ⟨[], rfl⟩

theorem free_of_sole {f : Frame} {rule : Rule} {item : Item} {rest : Children}
    (hplace : f.place ≠ .document) (hrule : rule ∈ f.place.rules) (hf : Children.Sole f.items)
    (h : Children.Sole (f.items ++ (rule.entry item ++ rest)))
    (hsingular : f.place.isSingular rule.field = true) :
    f.items.any (·.1 == rule.field) = false := by
  rw [Place.isSingular_eq hplace hrule, decide_eq_true_eq] at hsingular
  rw [Rule.entry, if_neg fun hdrop => hdrop.2 hsingular, ← List.append_assoc] at h
  exact hf.snoc_iff.1 h.of_append hsingular

namespace Element

mutual

/-- The events of an element that can be built take the reader from any state that lets it start to
the state that has been handed what it becomes. -/
theorem run_events (e : Element) (st : ReaderState) {rule : Rule} {item : Item}
    (hrule : st.place.rule? e.name = some rule)
    (hfree : st.place.isSingular rule.field = true → st.isFilled rule.field = false)
    (hitem : e.build rule.place = some item) :
    e.events.foldlM (ReaderState.step none) st =
      .ok (st.resume rule.field (item.handed (st.place.isSingular rule.field))) := by
  match e with
  | .mk name attributes body =>
    have hrule : st.place.rule? name = some rule := hrule
    obtain ⟨children, hchildren, hsole, hplace⟩ := build_eq_some_iff.1 hitem
    obtain ⟨scalars, hs⟩ := exists_openScalars hplace ⟨name, pathOf (name :: st.names)⟩
    have hstart : st.step none (.start name attributes) =
        .ok ⟨st.root, st.opened name rule scalars :: st.frames⟩ := by
      rw [ReaderState.step]
      exact ReaderState.start_eq_ok_iff.2 ⟨rule, scalars, hrule, hfree, rfl, hs, rfl⟩
    obtain ⟨f, hrun, hf⟩ := run_bodyEvents body st.root (st.opened name rule scalars) st.frames
      (Frame.Holds.opened hrule hfree hs) hchildren (by simpa [ReaderState.opened] using hsole)
    have hfinish : ReaderState.step none ⟨st.root, f :: st.frames⟩ (.finish name) =
        .ok (st.resume rule.field (item.handed (st.place.isSingular rule.field))) :=
      hf.finish_eq_ok_iff.2 ⟨rfl, rule, item, hrule, hitem, rfl⟩
    rw [events, foldlM_cons_of_ok hstart, foldlM_append_of_ok hrun]
    exact foldlM_cons_of_ok hfinish

/-- The events of a body that can be built leave the reader in the frame of the element. -/
theorem run_bodyEvents (body : List Content) (root : Option Node) (f : Frame) (fs : List Frame)
    {o : Opening} {children : Children} (hf : f.Holds ⟨root, fs⟩ o)
    (hb : buildBody f.place body = some children) (hsole : Children.Sole (f.items ++ children)) :
    ∃ f', (bodyEvents body).foldlM (ReaderState.step none) ⟨root, f :: fs⟩ =
      .ok ⟨root, f' :: fs⟩ ∧ f'.Holds ⟨root, fs⟩ (o.add body) := by
  match body with
  | [] =>
    refine ⟨f, rfl, ?_⟩
    simpa [Opening.add] using hf
  | .text s :: body =>
    have hstep : ReaderState.step none ⟨root, f :: fs⟩ (.text s) = .ok ⟨root, f.hear s :: fs⟩ :=
      congrArg Except.ok (ReaderState.text_cons s)
    obtain ⟨f', hrun, hf'⟩ := run_bodyEvents body root (f.hear s) fs (hf.hear s)
      (by simpa [buildBody] using hb) (by simpa using hsole)
    refine ⟨f', (foldlM_cons_of_ok hstep).trans hrun, ?_⟩
    simpa [Opening.add] using hf'
  | .element e :: body =>
    simp only [buildBody, Option.bind_eq_bind, Option.bind_eq_some_iff] at hb
    obtain ⟨rule, hrule, item, hitem, rest, hrest, hb⟩ := hb
    cases hb
    have hmem := Place.mem_rules_of_rule? hrule
    -- the children up to here and this one are the beginning of a row that is sole as a whole
    have hrun := run_events e ⟨root, f :: fs⟩ hrule
      (free_of_sole hf.place_ne_document hmem hf.sole hsole) hitem
    rw [← List.append_assoc] at hsole
    obtain ⟨f', hrun', hf'⟩ := run_bodyEvents body root _ fs
      (hf.addElement hrule hitem hsole.of_append) hrest hsole
    refine ⟨f', ?_, by simpa [Opening.add] using hf'⟩
    rw [show ReaderState.place ⟨root, f :: fs⟩ = f.place from rfl,
      ReaderState.resume_cons hf.place_ne_document hmem] at hrun
    rw [bodyEvents, foldlM_append_of_ok hrun, hrun']

end

end Element

/-- Without a limit of depth a document is read exactly when it is one root element, with text around
it, that can be built; then the result is what the element becomes. -/
theorem read_computes_build (events : List Event) (script : Node) :
    (Reader.read { maxDepth := none } { events }).1 = .ok script ↔
      ∃ (before : List String) (e : Element) (after : List String),
        events = texts before ++ e.events ++ texts after ∧ e.name = rootElement ∧
          e.build (.node .script) = some (.node script) := by
  have hread : (Reader.read { maxDepth := none } { events }).1 = .ok script ↔
      ∃ st, events.foldlM (ReaderState.step none) {} = .ok st ∧ st.result = .ok script := bind_eq_ok
  rw [hread]
  constructor
  · rintro ⟨st, hrun, hst⟩
    exact (ReaderState.Reads.run hrun).result hst
  · rintro ⟨before, e, after, rfl, hname, hbuild⟩
    have hrule : Place.document.rule? e.name = some (.node rootElement .script .nodes) := by
      rw [hname]
      decide
    have hroot := e.run_events {} hrule (fun _ => rfl) hbuild
    refine ⟨⟨some script, []⟩, ?_, rfl⟩
    rw [List.append_assoc, foldlM_append_of_ok (foldlM_texts before), foldlM_append_of_ok hroot]
    exact foldlM_texts after

end Scaffold.Descriptor
