import Scaffold.Proofs.Descriptor.Reading

/-!
# Open elements told from the events

`openings` reads off any events which elements are open after them, innermost first, each with the
contents that have come of it: a start opens an element, text goes to the innermost one, and an end
moves the innermost one, as a finished element, into the one around it. The grammar has no part in
it. The frames of the reader hold just these elements (`ReaderState.Reads.opens`). Their names tell
whether the innermost one keeps text (`ReaderState.Reads.keepsText_eq`) and whether it is a context
boolean (`Open.contextBoolean_iff`).
-/

namespace Scaffold.Descriptor

open Markup (Event Attributes)

namespace Opening

def text (o : Opening) : String := Element.ownText o.body

/-- The open elements after one more event. -/
def step : List Opening → Event → List Opening
  | os, .start name attributes => ⟨name, attributes, []⟩ :: os
  | o :: os, .text s => o.add [.text s] :: os
  | o :: parent :: os, .finish _ => parent.add [.element o.element] :: os
  | [_], .finish _ => []
  | [], _ => []

end Opening

/-- The open elements after some events, innermost first. -/
def openings (es : List Event) : List Opening := es.foldl Opening.step []

def openNames (es : List Event) : List String := (openings es).map (·.name)

/-! ### Events of finished elements -/

namespace Opening

theorem add_add (o : Opening) (body body' : List Content) :
    (o.add body).add body' = o.add (body ++ body') := by
  simp [add]

mutual

theorem foldl_events (e : Element) (o : Opening) (os : List Opening) :
    e.events.foldl step (o :: os) = o.add [.element e] :: os := by
  match e with
  | .mk name attributes body =>
    rw [Element.events, List.foldl_cons, step, List.foldl_append,
      foldl_bodyEvents body ⟨name, attributes, []⟩ (o :: os)]
    rfl

theorem foldl_bodyEvents (body : List Content) (o : Opening) (os : List Opening) :
    (Element.bodyEvents body).foldl step (o :: os) = o.add body :: os := by
  match body with
  | [] => simp [Element.bodyEvents, add]
  | .text s :: body =>
    rw [Element.bodyEvents, List.foldl_cons, step, foldl_bodyEvents body (o.add [.text s]) os,
      add_add]
    rfl
  | .element e :: body =>
    rw [Element.bodyEvents, List.foldl_append, foldl_events e o os,
      foldl_bodyEvents body (o.add [.element e]) os, add_add]
    rfl

end

theorem foldl_own (o : Opening) (os : List Opening) : o.events.foldl step os = o :: os := by
  rw [events, List.foldl_cons]
  cases os with
  | nil => simp [step, foldl_bodyEvents, add]
  | cons parent os => simp [step, foldl_bodyEvents, add]

end Opening

theorem openings_append (es es' : List Event) :
    openings (es ++ es') = es'.foldl Opening.step (openings es) := by
  rw [openings, List.foldl_append]
  rfl

theorem openings_element (e : Element) : openings e.events = [] := by
  obtain ⟨name, attributes, body⟩ := e
  have hevents : (Element.mk name attributes body).events =
      (⟨name, attributes, body⟩ : Opening).events ++ [.finish name] := by
    simp [Element.events, Opening.events]
  rw [hevents, openings_append, openings, Opening.foldl_own]
  rfl

theorem openings_texts (ss : List String) : openings (texts ss) = [] := by
  induction ss with
  | nil => rfl
  | cons s ss ih => exact ih

theorem openings_openEvents (os : List Opening) : openings (openEvents os) = os := by
  induction os with
  | nil => rfl
  | cons o os ih => rw [openEvents, openings_append, ih, Opening.foldl_own]

/-! ### Frames of open elements -/

theorem ReaderState.Reads.opens {st : ReaderState} {es : List Event} (h : st.Reads es) :
    Open st.frames (openings es) := by
  cases h with
  | inside before hopen hes =>
    rw [hes, openings_append, openings_texts, ← openings, openings_openEvents]
    exact hopen
  | behind before after e hname hb hes =>
    rw [hes, openings_append, openings_append, openings_texts, ← openings, openings_element,
      ← openings, openings_texts]
    exact .nil

namespace Open

variable {fs : List Frame} {os : List Opening}

theorem map_name (h : Open fs os) : fs.map (·.name) = os.map (·.name) := by
  induction h with
  | nil => rfl
  | cons hf _ ih => rw [List.map_cons, List.map_cons, hf.name, ih]

theorem length_eq (h : Open fs os) : fs.length = os.length := by
  have hlength := congrArg List.length h.map_name
  rwa [List.length_map, List.length_map] at hlength

theorem exists_opening {f : Frame} (h : Open (f :: fs) os) :
    ∃ o os', os = o :: os' ∧ f.Holds ⟨none, fs⟩ o := by
  cases h with
  | cons hf _ => exact ⟨_, _, rfl, hf⟩

theorem exists_frame {o : Opening} (h : Open fs (o :: os)) :
    ∃ f fs', fs = f :: fs' ∧ f.Holds ⟨none, fs'⟩ o := by
  cases h with
  | cons hf _ => exact ⟨_, _, rfl, hf⟩

end Open

theorem ReaderState.Reads.names_eq {st : ReaderState} {es : List Event} (h : st.Reads es) :
    st.names = openNames es :=
  h.opens.map_name

/-! ### Places told from names -/

section Places

variable {place : Place} {name : String} {rule : Rule} {f : Frame} {fs : List Frame} {o : Opening}
  {os : List Opening}

/-- The elements that keep text wherever they stand, and those that do in a context. -/
def textElements : List String := ["help", "value", "directory", "include", "exclude"]

def contextTextElements : List String := ["text", "boolean"]

/-- Is text kept in the innermost of the elements with these names, innermost first? It is in a help,
in the directory, the includes and the excludes of a file selection, in the values of a model and in
those of an enum or a list in a context, and in a text or a boolean right in a context. -/
def keepsTextIn : List String → Bool
  | [] => false
  | name :: around =>
    textElements.contains name ||
      (contextTextElements.contains name && around.head? == some "context")

theorem Kind.place_of_mem_rules {kind : Kind} (h : rule ∈ kind.rules) :
    (rule.place = .node .contextBlock ↔ rule.element = "context") ∧
      (rule.place = .node .contextBoolean ↔ rule.element = "boolean" ∧ kind = .contextBlock) ∧
      rule.place.keepsText = (textElements.contains rule.element ||
        (contextTextElements.contains rule.element && kind == .contextBlock)) := by
  revert rule
  cases kind <;> decide

theorem Place.place_of_rule? (h : place.rule? name = some rule) :
    (rule.place = .node .contextBlock ↔ name = "context") ∧
      (rule.place = .node .contextBoolean ↔ name = "boolean" ∧ place = .node .contextBlock) ∧
      rule.place.keepsText = (textElements.contains name ||
        (contextTextElements.contains name && place == .node .contextBlock)) := by
  have hmem := mem_rules_of_rule? h
  have hname : rule.element = name := by simpa using List.find?_some h
  subst hname
  cases place with
  | node kind =>
    obtain ⟨hblock, hboolean, hkeeps⟩ := Kind.place_of_mem_rules hmem
    refine ⟨hblock, ?_, ?_⟩
    · rw [hboolean, Place.node.injEq]
    · rw [hkeeps]
      by_cases hk : kind = .contextBlock
      · subst hk; rfl
      · have hp : Place.node kind ≠ .node .contextBlock := fun hp => hk (Place.node.inj hp)
        rw [beq_false_of_ne hk, beq_false_of_ne hp]
  | document | text | includes | excludes =>
    clear h
    revert rule
    decide

namespace Open

theorem place_eq_contextBlock_iff (h : Open fs os) :
    ReaderState.place ⟨none, fs⟩ = .node .contextBlock ↔
      (os.map (·.name)).head? = some "context" := by
  cases h with
  | nil => simp [ReaderState.place]
  | @cons f fs o os hf _ =>
    obtain ⟨rule, hrule, hplace, -⟩ := hf.rule
    show f.place = .node .contextBlock ↔ _
    rw [hplace, (Place.place_of_rule? hrule).1]
    simp

theorem contextBoolean_iff (h : Open (f :: fs) (o :: os)) :
    f.place = .node .contextBoolean ↔
      o.name = "boolean" ∧ (os.map (·.name)).head? = some "context" := by
  cases h with
  | cons hf hopen =>
    obtain ⟨rule, hrule, hplace, -⟩ := hf.rule
    rw [hplace, (Place.place_of_rule? hrule).2.1, hopen.place_eq_contextBlock_iff]

theorem keepsText_eq (h : Open fs os) :
    (ReaderState.place ⟨none, fs⟩).keepsText = keepsTextIn (os.map (·.name)) := by
  cases h with
  | nil => rfl
  | @cons f fs o os hf hopen =>
    obtain ⟨rule, hrule, hplace, -⟩ := hf.rule
    have hcontext : (ReaderState.place ⟨none, fs⟩ == .node .contextBlock) =
        ((os.map (·.name)).head? == some "context") := by
      rw [Bool.eq_iff_iff, beq_iff_eq, beq_iff_eq, hopen.place_eq_contextBlock_iff]
    show f.place.keepsText = _
    rw [hplace, (Place.place_of_rule? hrule).2.2, hcontext]
    rfl

end Open

theorem ReaderState.Reads.keepsText_eq {st : ReaderState} {es : List Event} (h : st.Reads es) :
    st.place.keepsText = keepsTextIn (openNames es) :=
  h.opens.keepsText_eq

end Places

/-! ### Booleans that state no truth value -/

/-- The innermost element is a context boolean, and its text is neither empty nor a truth value. -/
def Misstated : List Opening → Prop
  | o :: parent :: _ => o.name = "boolean" ∧ parent.name = "context" ∧ o.text ≠ "" ∧
      (Text.trimmed o.text).map Char.toLower ∉ ["true", "false"]
  | _ => False

instance : DecidablePred Misstated
  | [] => inferInstanceAs (Decidable False)
  | [_] => inferInstanceAs (Decidable False)
  | _ :: _ :: _ => inferInstanceAs (Decidable (_ ∧ _ ∧ _ ∧ _))

theorem truthOf?_eq_none_iff {value : String} :
    truthOf? value = none ↔ (Text.trimmed value).map Char.toLower ∉ ["true", "false"] := by
  unfold truthOf?
  by_cases htrue : (Text.trimmed value).map Char.toLower = "true"
  · simp [htrue]
  · by_cases hfalse : (Text.trimmed value).map Char.toLower = "false"
    · simp [hfalse]
    · simp [htrue, hfalse]

theorem misstated_cons_iff {o : Opening} {os : List Opening} :
    Misstated (o :: os) ↔ (o.name = "boolean" ∧ (os.map (·.name)).head? = some "context") ∧
      o.text ≠ "" ∧ truthOf? o.text = none := by
  rw [truthOf?_eq_none_iff, and_assoc]
  cases os with
  | nil => simp [Misstated]
  | cons parent os => simp [Misstated]

theorem Frame.Holds.text_of_contextBoolean {below : ReaderState} {f : Frame} {o : Opening}
    (h : f.Holds below o) (hplace : f.place = .node .contextBoolean) : f.text = o.text := by
  rw [h.text, hplace, if_pos (by decide)]
  rfl

theorem Open.misstated_iff {f : Frame} {fs : List Frame} {o : Opening} {os : List Opening}
    (h : Open (f :: fs) (o :: os)) :
    Misstated (o :: os) ↔
      f.place = .node .contextBoolean ∧ f.text ≠ "" ∧ truthOf? f.text = none := by
  rw [misstated_cons_iff, ← h.contextBoolean_iff]
  refine and_congr_right fun hplace => ?_
  cases h with
  | cons hf _ => rw [hf.text_of_contextBoolean hplace]

end Scaffold.Descriptor
