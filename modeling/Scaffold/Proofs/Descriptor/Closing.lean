import Scaffold.Proofs.Descriptor.Ancestry

/-!
# Closing what is open

At any point of a reading the elements that are open can be closed, and then there is a root
(`ReaderState.Reads.exists_closed`): each end leaves a state of which the same can be said, with one
element less open. Only a context boolean can stand in the way, and it has no elements inside, so it
can only be the innermost one (`Open.not_misstated_of_inner`).
-/

namespace Scaffold.Descriptor

open Markup (Event Attributes)

variable {st : ReaderState} {limit : Option Int} {es : List Event} {o : Opening}
  {os : List Opening}

/-! ### One element -/

theorem Open.not_misstated_of_inner {fs : List Frame} {parent parent' : Opening}
    (h : Open fs (o :: parent :: os)) (hname : parent'.name = parent.name) :
    ¬ Misstated (parent' :: os) := by
  intro hmis
  cases h with
  | cons hf hopen =>
    obtain ⟨g, gs, rfl, -⟩ := hopen.exists_frame
    obtain ⟨rule, hrule, -⟩ := hf.rule
    have hplace : g.place = .node .contextBoolean := by
      rw [hopen.contextBoolean_iff, ← hname]
      exact (misstated_cons_iff.1 hmis).1
    have hrule : g.place.rule? o.name = some rule := hrule
    have hnone : (Place.node .contextBoolean).rule? o.name = none := rfl
    rw [hplace, hnone] at hrule
    cases hrule

namespace ReaderState.Reads

theorem exists_innermost (h : st.Reads es) (hos : openings es = o :: os) :
    ∃ f fs, st.frames = f :: fs ∧ f.Holds ⟨none, fs⟩ o ∧ Open (f :: fs) (o :: os) := by
  have hopen := h.opens
  rw [hos] at hopen
  obtain ⟨f, fs, hfs, hf⟩ := hopen.exists_frame
  exact ⟨f, fs, hfs, hf, hfs ▸ hopen⟩

theorem exists_finish (h : st.Reads es) (hos : openings es = o :: os)
    (hok : ¬ Misstated (o :: os)) : ∃ st', st.finish o.name = .ok st' := by
  obtain ⟨f, fs, hfs, hf, hopen⟩ := h.exists_innermost hos
  cases hr : f.result (pathOf st.names) with
  | ok r => exact ⟨_, ReaderState.finish_eq_ok_iff.2 ⟨f, fs, r, hfs, hf.name, hr, rfl⟩⟩
  | error err =>
    obtain ⟨hplace, htext, htruth, -⟩ := hf.result_eq_error_iff.1 hr
    exact absurd (hopen.misstated_iff.2 ⟨hplace, htext, htruth⟩) hok

theorem finish_misstated (h : st.Reads es) (hos : openings es = o :: os)
    (hmis : Misstated (o :: os)) :
    st.finish o.name =
      .error (.document (.invalidValue o.name o.text o.name (pathOf (openNames es)))) := by
  obtain ⟨f, fs, hfs, hf, hopen⟩ := h.exists_innermost hos
  obtain ⟨hplace, htext, htruth⟩ := hopen.misstated_iff.1 hmis
  have hr : f.result (pathOf st.names) = .error _ :=
    hf.result_eq_error_iff.2 ⟨hplace, htext, htruth, rfl⟩
  rw [hf.text_of_contextBoolean hplace, hf.name, h.names_eq] at hr
  simp only [ReaderState.finish, hfs, hf.name, h.names_eq, hr]
  rw [if_neg (not_not.2 rfl)]
  rfl

/-! ### All elements -/

theorem exists_root (h : st.Reads es) (hos : openings es = [])
    (htag : ∃ e ∈ es, ∀ s, e ≠ .text s) : ∃ root, st = ⟨some root, []⟩ := by
  cases h with
  | behind before after e hname hb hes => exact ⟨_, rfl⟩
  | @inside fs os' _ before hopen hes =>
    have hnil : os' = [] := by
      rw [← hos, hes, openings_append, openings_texts, ← openings, openings_openEvents]
    obtain ⟨e, he, hne⟩ := htag
    rw [hes, hnil, openEvents, List.append_nil] at he
    obtain ⟨s, -, hs⟩ := List.mem_map.1 he
    exact absurd hs.symm (hne s)

/-- The ends of all open elements, innermost first, lead to a root. -/
theorem exists_closed (h : st.Reads es) (hos : openings es = o :: os)
    (hok : ¬ Misstated (o :: os)) :
    ∃ root, ((o :: os).map fun o => Event.finish o.name).foldlM (ReaderState.step limit) st =
      .ok ⟨some root, []⟩ := by
  induction os generalizing st es o with
  | nil =>
    obtain ⟨st', hfinish⟩ := h.exists_finish hos hok
    have hnil : openings (es ++ [.finish o.name]) = [] := by
      rw [openings_append, hos]
      rfl
    obtain ⟨root, rfl⟩ := (h.finish hfinish).exists_root hnil ⟨.finish o.name, by simp, by simp⟩
    exact ⟨root, bind_eq_ok.2 ⟨_, hfinish, rfl⟩⟩
  | cons parent os ih =>
    obtain ⟨st', hfinish⟩ := h.exists_finish hos hok
    have hnext : openings (es ++ [.finish o.name]) = parent.add [.element o.element] :: os := by
      rw [openings_append, hos]
      rfl
    have hok' : ¬ Misstated (parent.add [.element o.element] :: os) := by
      have hopen := h.opens
      rw [hos] at hopen
      exact hopen.not_misstated_of_inner rfl
    obtain ⟨root, hroot⟩ := ih (h.finish hfinish) hnext hok'
    exact ⟨root, bind_eq_ok.2 ⟨st', hfinish, hroot⟩⟩

end ReaderState.Reads

/-! ### Children that may stand once -/

theorem Element.exists_entry_of_buildBody {place : Place} {body : List Content} {e : Element}
    {rule : Rule} {children : Children} (h : buildBody place body = some children)
    (he : .element e ∈ body) (hrule : place.rule? e.name = some rule) :
    ∃ item, e.build rule.place = some item ∧ ∀ c ∈ rule.entry item, c ∈ children := by
  induction body generalizing children with
  | nil => cases he
  | cons b body ih =>
    cases b with
    | text s => exact ih h (by simpa using he)
    | element e' =>
      simp only [buildBody, Option.bind_eq_bind, Option.bind_eq_some_iff] at h
      obtain ⟨rule', hrule', item, hitem, rest, hrest, h⟩ := h
      cases h
      rcases List.mem_cons.1 he with heq | he
      · cases heq
        cases hrule.symm.trans hrule'
        exact ⟨item, hitem, fun c hc => List.mem_append_left _ hc⟩
      · obtain ⟨item', hitem', hmem⟩ := ih hrest he
        exact ⟨item', hitem', fun c hc => List.mem_append_right _ (hmem c hc)⟩

theorem Children.Sole.forField_eq {children : Children} {f : Field} {item : Item}
    (h : children.Sole) (hf : f ∈ soleFields) (hmem : (f, item) ∈ children) :
    children.forField f = [item] := by
  have hcount : (children.filter (·.1 == f)).length ≤ 1 := by
    have hle := h f hf
    rw [List.count, List.countP_map, List.countP_eq_length_filter] at hle
    exact hle
  have hfilter : (f, item) ∈ children.filter (·.1 == f) := by simp [hmem]
  have hone : children.filter (·.1 == f) = [(f, item)] := by
    obtain ⟨c, hc⟩ := List.length_eq_one_iff.1
      (Nat.le_antisymm hcount (List.length_pos_of_mem hfilter))
    rw [hc] at hfilter ⊢
    rw [List.mem_singleton.1 hfilter]
  rw [forField, hone]
  rfl

/-- Every child element that may stand once and has come to its end has filled its field. -/
def Frame.SoleFilled (f : Frame) (o : Opening) : Prop :=
  ∀ e rule, .element e ∈ o.body → f.place.rule? e.name = some rule →
    f.place.isSingular rule.field = true →
    ∃ item, e.build rule.place = some item ∧ Children.forField f.items rule.field = [item]

theorem Frame.Holds.soleFilled {f : Frame} {below : ReaderState} (h : f.Holds below o) :
    f.SoleFilled o := by
  intro e rule he hrule hsingular
  have hmem := Place.mem_rules_of_rule? hrule
  rw [Place.isSingular_eq h.place_ne_document hmem, decide_eq_true_eq] at hsingular
  obtain ⟨item, hitem, hentry⟩ := Element.exists_entry_of_buildBody h.items he hrule
  refine ⟨item, hitem, h.sole.forField_eq hsingular (hentry _ ?_)⟩
  rw [Rule.entry, if_neg fun hdrop => hdrop.2 hsingular]
  exact List.mem_singleton_self _

theorem Open.soleFilled {fs : List Frame} (h : Open fs os) :
    List.Forall₂ Frame.SoleFilled fs os := by
  induction h with
  | nil => exact .nil
  | cons hf _ ih => exact .cons hf.soleFilled ih

/-! ### What is open can be closed -/

/-- Whatever has been read so far, if an element has started: the ends of the open elements,
innermost first, complete the document, unless the innermost one is a context boolean that states no
truth value; and no field that a child has taken for itself is empty. -/
theorem open_elements_can_be_closed (limit : Option Int) (es : List Event) (st : ReaderState)
    (hrun : es.foldlM (ReaderState.step limit) {} = .ok st)
    (hstart : ∃ name attributes, Event.start name attributes ∈ es) :
    (¬ Misstated (openings es) → ∃ script,
      read limit (es ++ (openNames es).map .finish) = .ok script ∧ script.kind = .script) ∧
    (∀ o os, openings es = o :: os → Misstated (o :: os) →
      read limit (es ++ (openNames es).map .finish) =
        .error (.document (.invalidValue o.name o.text o.name (pathOf (openNames es))))) ∧
    List.Forall₂ Frame.SoleFilled st.frames (openings es) := by
  have hst := ReaderState.Reads.run hrun
  refine ⟨fun hok => ?_, fun o os hos hmis => ?_, hst.opens.soleFilled⟩
  · have hclosed : ∃ script, ((openNames es).map Event.finish).foldlM (ReaderState.step limit) st =
        .ok ⟨some script, []⟩ := by
      -- with nothing open there has to be a root already, since a tag has been read
      cases hos : openings es with
      | nil =>
        obtain ⟨name, attributes, hmem⟩ := hstart
        obtain ⟨root, rfl⟩ := hst.exists_root hos ⟨_, hmem, by simp⟩
        exact ⟨root, by rw [openNames, hos]; rfl⟩
      | cons o os =>
        obtain ⟨root, hroot⟩ := hst.exists_closed hos (hos ▸ hok)
        refine ⟨root, ?_⟩
        rw [openNames, hos, List.map_map]
        exact hroot
    obtain ⟨script, hscript⟩ := hclosed
    have hread : read limit (es ++ (openNames es).map .finish) = .ok script := by
      refine bind_eq_ok.2 ⟨⟨some script, []⟩, ?_, rfl⟩
      rw [List.foldlM_append, bind_eq_ok]
      exact ⟨st, hrun, hscript⟩
    exact ⟨script, hread, kind_of_read hread⟩
  · refine read_eq_error_iff.2 ⟨es, _, rfl, st, hrun, ?_⟩
    have hhead : ((openNames es).map Event.finish).head? = some (.finish o.name) := by
      rw [openNames, hos]
      rfl
    rw [hhead]
    exact hst.finish_misstated hos hmis

/-- A context boolean that is open, with a text in some pieces. -/
def openBoolean (value : List String) : List Event :=
  [.start "archetype-script" [], .text "\n", .start "context" [],
    .start "boolean" [("path", some "debug")]] ++ texts value

/-- `" TRUE"` states a truth value and `"maybe"` states none. -/
theorem closing_of_stated_and_misstated_boolean :
    (∃ script, read (some 3) (openBoolean [" TR", "UE"] ++
      [.finish "boolean", .finish "context", .finish "archetype-script"]) = .ok script ∧
        script.kind = .script) ∧
    read (some 3) (openBoolean ["may", "be"] ++
      [.finish "boolean", .finish "context", .finish "archetype-script"]) =
        .error (.document (.invalidValue "boolean" "maybe" "boolean"
          "archetype-script/context/boolean")) := by
  have hstart : ∀ value, ∃ name attributes, Event.start name attributes ∈ openBoolean value :=
    fun value => ⟨"archetype-script", [], by simp [openBoolean]⟩
  constructor
  · exact (open_elements_can_be_closed (some 3) (openBoolean [" TR", "UE"]) _ rfl (hstart _)).1
      (by decide +kernel)
  · exact (open_elements_can_be_closed (some 3) (openBoolean ["may", "be"]) _ rfl (hstart _)).2.1
      _ _ rfl (by decide +kernel)

end Scaffold.Descriptor
