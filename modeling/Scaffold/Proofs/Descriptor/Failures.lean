import Scaffold.Proofs.Descriptor.Reading

/-!
# What stops a reading

Reading a document comes to a root or to a `ReadError`: the parts of an element always make its node
(`Frame.Holds.exists_assembled`), and events bring no failures of their own. There are two exceptions,
both for a number with too many digits: an order on an element that is right in all else
(`Overflows`), and a limit that an element exceeds, as no message can name it (`Outgrows`).
`start_cases` and `finish_cases` say why an element may not start or finish, `step_failure` what that
leaves for a step from a state that can be reached, and `read_cases` what it leaves for a whole
document.
-/

namespace Scaffold.Descriptor

open Markup (Event Attributes)

variable {site : Site} {name value text : String} {attributes : Attributes} {kind : Kind}
  {d : Declaration} {err : ReadFailure}

/-- The number of digits in the order that attributes state, if they state one in digits. -/
def orderLength? (attributes : Attributes) : Option Nat :=
  (attribute? attributes Field.order.attributeName).bind fun value =>
    (orderDigits? value.toList).map (·.2.length)

/-! ### Values that cannot be converted -/

theorem parseOrder_cases (h : parseOrder site value = .error err) :
    (orderDigits? value.toList = none ∧
      err = .document (.invalidOrder value site.element site.path)) ∨
    ∃ n, (orderDigits? value.toList).map (·.2.length) = some n ∧ Number.maxDigits < n ∧
      err = .orderDigits n := by
  unfold parseOrder at h
  split at h
  · next hd => cases h; exact .inl ⟨hd, rfl⟩
  · next negative digits hd =>
    split at h
    · next hlen => cases h; exact .inr ⟨digits.length, by rw [hd]; rfl, hlen, rfl⟩
    · cases h

theorem parseOrder_eq_invalidOrder (h : orderDigits? value.toList = none) :
    parseOrder site value = .error (.document (.invalidOrder value site.element site.path)) := by
  rw [parseOrder, h]

theorem parseOrder_eq_orderDigits {negative : Bool} {digits : List Char}
    (h : orderDigits? value.toList = some (negative, digits))
    (hlen : Number.maxDigits < digits.length) :
    parseOrder site value = .error (.orderDigits digits.length) := by
  rw [parseOrder, h]
  exact if_pos hlen

theorem parseFlag_eq_error_iff :
    parseFlag site name value = .error err ↔
      truthOf? value = none ∧ err = .document (.invalidValue name value site.element site.path) := by
  unfold parseFlag truthOf?
  split
  · next h => simp [h]
  · next h => simp [h]
  · next h h' =>
    simp only [if_neg h, if_neg h', true_and, Except.error.injEq]
    exact eq_comm

/-- Only orders and truth values can be wrong. -/
theorem convert_cases (h : d.convert site name value = .error err) :
    (d.shape = .order ∧ parseOrder site value = .error err) ∨
      (d.shape = .flag ∧ parseFlag site name value = .error err) := by
  unfold Declaration.convert at h
  split at h
  · next hshape =>
    rw [bind_eq_error] at h
    rcases h with h | ⟨n, -, h⟩
    · exact .inl ⟨hshape, h⟩
    · cases h
  · next hshape =>
    rw [bind_eq_error] at h
    rcases h with h | ⟨x, -, h⟩
    · exact .inr ⟨hshape, h⟩
    · cases h
  · cases h
  · cases h

theorem ofAttributes_cases (h : d.ofAttributes site attributes = .error err) :
    d.origin = .ownAttribute ∧ ∃ value, attribute? attributes d.field.attributeName = some value ∧
      d.convert site d.field.attributeName value = .error err := by
  unfold Declaration.ofAttributes at h
  split at h
  · cases h
  · next horigin =>
    split at h
    · cases h
    · next value hvalue =>
      rw [bind_eq_error] at h
      rcases h with h | ⟨s, -, h⟩
      · exact ⟨horigin, value, hvalue, h⟩
      · cases h
  · cases h

theorem ofContent_cases (h : d.ofContent site text = .error err) :
    d.origin = .content ∧ text ≠ "" ∧ d.convert site site.element text = .error err := by
  unfold Declaration.ofContent at h
  split at h
  · next hc =>
    rw [bind_eq_error] at h
    rcases h with h | ⟨s, -, h⟩
    · exact ⟨hc.1, hc.2, h⟩
    · cases h
  · cases h

theorem eq_order_of_mem_schema (hd : d ∈ kind.schema) (hshape : d.shape = .order) :
    d = .order := by
  revert d
  cases kind <;> decide

theorem not_flag_of_order_mem_schema (horder : Declaration.order ∈ kind.schema) :
    ∀ d ∈ kind.schema, d.shape ≠ .flag := by
  revert horder
  cases kind <;> decide

/-- The attributes of an element are refused with a read error, or for an order of too many digits
with all required attributes there. -/
theorem readAttributes_failure (h : kind.readAttributes site attributes = .error err) :
    (∃ e, err = .document e) ∨
      ∃ n, kind.missing? attributes = none ∧ .order ∈ kind.schema ∧
        orderLength? attributes = some n ∧ Number.maxDigits < n ∧ err = .orderDigits n := by
  unfold Kind.readAttributes at h
  split at h
  · cases h; exact .inl ⟨_, rfl⟩
  · next hreq =>
    rw [bind_eq_error] at h
    rcases h with h | ⟨os, -, h⟩
    · obtain ⟨d, hd, h⟩ := exists_error_of_mapM h
      obtain ⟨-, value, hvalue, hconv⟩ := ofAttributes_cases h
      rcases convert_cases hconv with ⟨hshape, horder⟩ | ⟨-, hflag⟩
      · cases eq_order_of_mem_schema hd hshape
        rcases parseOrder_cases horder with ⟨-, rfl⟩ | ⟨n, hn, hlen, rfl⟩
        · exact .inl ⟨_, rfl⟩
        · have hvalue : attribute? attributes Field.order.attributeName = some value := hvalue
          exact .inr ⟨n, hreq, hd, by rw [orderLength?, hvalue]; exact hn, hlen, rfl⟩
      · exact .inl ⟨_, (parseFlag_eq_error_iff.1 hflag).2⟩
    · cases h

theorem eq_contextBoolean_of_mem_schema (hd : d ∈ kind.schema) (horigin : d.origin = .content)
    (hshape : d.shape = .flag) : kind = .contextBoolean := by
  revert d
  cases kind <;> decide

/-- The text of an element is refused only in a context boolean, where it has to be a truth value. -/
theorem readContent_eq_error_iff :
    kind.readContent site text = .error err ↔
      kind = .contextBoolean ∧ text ≠ "" ∧ truthOf? text = none ∧
        err = .document (.invalidValue site.element text site.element site.path) := by
  constructor
  · intro h
    rcases bind_eq_error.1 h with h | ⟨os, -, h⟩
    · obtain ⟨d, hd, h⟩ := exists_error_of_mapM h
      obtain ⟨horigin, htext, h⟩ := ofContent_cases h
      rcases convert_cases h with ⟨hshape, -⟩ | ⟨hshape, h⟩
      · -- an order is stated by its attribute
        cases eq_order_of_mem_schema hd hshape
        cases horigin
      · exact ⟨eq_contextBoolean_of_mem_schema hd horigin hshape, htext,
          parseFlag_eq_error_iff.1 h⟩
    · cases h
  · rintro ⟨rfl, htext, hwrong⟩
    have hflag : parseFlag site site.element text = .error err := parseFlag_eq_error_iff.2 hwrong
    simp [Kind.readContent, Kind.schema, Declaration.required, Declaration.ofContent,
      Declaration.convert, htext, hflag, bind, Except.bind, pure, Except.pure]

/-- With all required attributes there, an order that is none is what the attributes are refused
for. -/
theorem readAttributes_eq_error_of_order (hreq : kind.missing? attributes = none)
    (horder : Declaration.order ∈ kind.schema)
    (hvalue : attribute? attributes Field.order.attributeName = some value)
    (hparse : parseOrder site value = .error err) :
    kind.readAttributes site attributes = .error err := by
  have hwrong : Declaration.order.ofAttributes site attributes = .error err := by
    have hvalue : attribute? attributes Declaration.order.field.attributeName = some value := hvalue
    simp only [Declaration.ofAttributes, Declaration.order] at hvalue ⊢
    simp only [hvalue, Declaration.convert, hparse]
    rfl
  simp only [Kind.readAttributes, hreq]
  cases hm : kind.schema.mapM (·.ofAttributes site attributes) with
  | ok os =>
    obtain ⟨o, ho⟩ := exists_forall₂_iff.1 ⟨os, mapM_eq_ok_iff.1 hm⟩ _ horder
    rw [hwrong] at ho
    cases ho
  | error err' =>
    -- whatever refuses the attributes is the order
    obtain ⟨d, hd, h⟩ := exists_error_of_mapM hm
    obtain ⟨-, value', -, hconv⟩ := ofAttributes_cases h
    rcases convert_cases hconv with ⟨hshape, -⟩ | ⟨hshape, -⟩
    · cases eq_order_of_mem_schema hd hshape
      rw [hwrong] at h
      cases h
      rfl
    · exact absurd hshape (not_flag_of_order_mem_schema horder d hd)

/-! ### Elements that may not start or finish -/

namespace ReaderState

variable {st : ReaderState} {limit : Option Int} {rule : Rule}

/-- The grammar lists the element here, and it may stand once more. -/
structure Offers (st : ReaderState) (name : String) (rule : Rule) : Prop where
  listed : st.place.rule? name = some rule
  free : st.place.isSingular rule.field = true → st.isFilled rule.field = false

/-- The element is offered, and it is not too deep. -/
structure Allows (st : ReaderState) (limit : Option Int) (name : String) (rule : Rule) : Prop
    extends st.Offers name rule where
  depth : (limit.filter fun n : Int => n < st.frames.length + 1) = none

/-- An element may start here as a node that has an order, with all that the node requires. -/
def TakesOrder (st : ReaderState) (limit : Option Int) (name : String) (attributes : Attributes) :
    Prop :=
  ∃ rule kind, st.Allows limit name rule ∧ rule.place = .node kind ∧
    kind.missing? attributes = none ∧ .order ∈ kind.schema

/-- An element would start deeper than a limit with too many digits, and nothing else is wrong with
it. -/
def Outgrows (st : ReaderState) (limit : Option Int) (name : String) : Prop :=
  ∃ rule, ∃ n : Int, st.Offers name rule ∧ limit = some n ∧ n < st.frames.length + 1 ∧
    (Number.integer n).isWritable = false

/-- What stops an element that is deeper than the limit `n`. -/
def depthFailure (st : ReaderState) (n : Int) (name : String) : ReadFailure :=
  if (Number.integer n).isWritable then .document (.tooDeep n (pathOf (name :: st.names)))
  else .limitDigits

theorem Offers.start_eq_of_depth {n : Int} (h : st.Offers name rule)
    (hdepth : (limit.filter fun n : Int => n < st.frames.length + 1) = some n) :
    st.start limit name attributes = .error (st.depthFailure n name) := by
  unfold start
  simp only [h.listed, hdepth]
  rw [if_neg (by simpa using h.free)]
  rfl

theorem Outgrows.start_eq (h : st.Outgrows limit name) :
    st.start limit name attributes = .error .limitDigits := by
  obtain ⟨rule, n, hoffers, rfl, hn, hlong⟩ := h
  rw [hoffers.start_eq_of_depth (Option.filter_eq_some_iff.2 ⟨rfl, by simpa using hn⟩), depthFailure,
    if_neg (by simp [hlong])]

theorem Allows.start_eq (h : st.Allows limit name rule) :
    st.start limit name attributes =
      (openScalars rule.place ⟨name, pathOf (name :: st.names)⟩ attributes).map fun scalars =>
        ⟨st.root, st.opened name rule scalars :: st.frames⟩ := by
  unfold start
  simp only [h.listed, h.depth]
  rw [if_neg (by simpa using h.free)]
  cases openScalars rule.place ⟨name, pathOf (name :: st.names)⟩ attributes <;> rfl

/-- Any other element is refused for itself. -/
theorem start_cases (h : st.start limit name attributes = .error err) :
    (st.place.rule? name = none ∧
      err = .document (.unexpectedElement st.names.head? name (pathOf (name :: st.names)))) ∨
    (∃ rule, st.place.rule? name = some rule ∧ st.place.isSingular rule.field = true ∧
      st.isFilled rule.field = true ∧
      err = .document (if st.frames.isEmpty then
        .unexpectedElement none name (pathOf (name :: st.names))
        else .duplicate name (pathOf (name :: st.names)))) ∨
    (∃ rule, ∃ n : Int, st.Offers name rule ∧ limit = some n ∧ n < st.frames.length + 1 ∧
      err = st.depthFailure n name) ∨
    ∃ rule, st.Allows limit name rule ∧
      openScalars rule.place ⟨name, pathOf (name :: st.names)⟩ attributes = .error err := by
  cases hrule : st.place.rule? name with
  | none =>
    simp only [start, hrule] at h
    cases h
    exact .inl ⟨rfl, rfl⟩
  | some rule =>
    by_cases hfree : st.place.isSingular rule.field = true → st.isFilled rule.field = false
    · have hoffers : st.Offers name rule := ⟨hrule, hfree⟩
      cases hdepth : limit.filter fun n : Int => n < st.frames.length + 1 with
      | none =>
        have hallows : st.Allows limit name rule := ⟨hoffers, hdepth⟩
        refine .inr (.inr (.inr ⟨rule, hallows, ?_⟩))
        rw [hallows.start_eq] at h
        cases hs : openScalars rule.place ⟨name, pathOf (name :: st.names)⟩ attributes with
        | ok scalars => rw [hs] at h; cases h
        | error e => rw [hs] at h; cases h; rfl
      | some n =>
        obtain ⟨hn, hlt⟩ := Option.filter_eq_some_iff.1 hdepth
        rw [hoffers.start_eq_of_depth hdepth] at h
        exact .inr (.inr (.inl ⟨rule, n, hoffers, hn, by simpa using hlt, (Except.error.inj h).symm⟩))
    · obtain ⟨hsingular, hfilled⟩ : st.place.isSingular rule.field = true ∧
          st.isFilled rule.field = true := by simpa using hfree
      refine .inr (.inl ⟨rule, rfl, hsingular, hfilled, ?_⟩)
      simp only [start, hrule, hsingular, hfilled] at h
      -- a second root is reported as out of place, a second child as a duplicate
      by_cases hempty : st.frames.isEmpty = true
      · simp only [hempty] at h ⊢
        cases h
        rfl
      · simp only [hempty] at h ⊢
        cases h
        rfl

/-- An element may not finish that is not open, that is not the innermost one, or that has no
result. -/
theorem finish_cases (h : st.finish name = .error err) :
    (st.frames = [] ∧ err = .document (.unexpectedElement none name name)) ∨
    ∃ f fs, st.frames = f :: fs ∧
      ((f.name ≠ name ∧
          err = .document (.unexpectedElement (some f.name) name (pathOf st.names))) ∨
        (f.name = name ∧ f.result (pathOf st.names) = .error err)) := by
  unfold finish at h
  split at h
  · next hfs => cases h; exact .inl ⟨hfs, rfl⟩
  · next f fs hfs =>
    refine .inr ⟨f, fs, hfs, ?_⟩
    split at h
    · next hname => cases h; exact .inl ⟨hname, rfl⟩
    · next hname =>
      rw [bind_eq_error] at h
      rcases h with h | ⟨r, -, h⟩
      · exact .inr ⟨not_not.1 hname, h⟩
      · cases r <;> cases h

end ReaderState

/-! ### Runs -/

theorem openScalars_failure {place : Place}
    (h : ReaderState.openScalars place site attributes = .error err) :
    (∃ e, err = .document e) ∨
      ∃ n kind, place = .node kind ∧ kind.missing? attributes = none ∧ .order ∈ kind.schema ∧
        orderLength? attributes = some n ∧ Number.maxDigits < n ∧ err = .orderDigits n := by
  cases place with
  | node kind =>
    rcases readAttributes_failure h with hdoc | ⟨n, hn⟩
    · exact .inl hdoc
    · exact .inr ⟨n, kind, rfl, hn⟩
  | document | text | includes | excludes => cases h

/-- An open element is refused at its end only if it is a context boolean with a text that is no
truth value. -/
theorem Frame.Holds.result_eq_error_iff {below : ReaderState} {f : Frame} {o : Opening}
    {path : String} (hf : f.Holds below o) :
    f.result path = .error err ↔
      f.place = .node .contextBoolean ∧ f.text ≠ "" ∧ truthOf? f.text = none ∧
        err = .document (.invalidValue f.name f.text f.name path) := by
  cases hplace : f.place with
  | node kind =>
    simp only [Frame.result, hplace, bind_eq_error, mapError_eq_error, readContent_eq_error_iff,
      Place.node.injEq]
    constructor
    · rintro (h | ⟨content, hc, ⟨m, hm, -⟩ | ⟨n, -, h⟩⟩)
      · exact h
      · obtain ⟨n, hn, -⟩ := hf.exists_assembled hplace hc
        rw [hn] at hm
        cases hm
      · cases h
    · exact .inl
  | document | text | includes | excludes => simp [Frame.result, hplace]

section Run

variable {st : ReaderState} {limit : Option Int} {es : List Event} {e : Event} {root : Node}

/-- A step from a state that can be reached is refused with a read error, or for a number with too
many digits. -/
theorem ReaderState.Reads.step_failure (hst : st.Reads es) (h : st.step limit e = .error err) :
    (∃ re, err = .document re) ∨
    (∃ n name attributes, e = .start name attributes ∧ st.TakesOrder limit name attributes ∧
      orderLength? attributes = some n ∧ Number.maxDigits < n ∧ err = .orderDigits n) ∨
    ∃ name attributes, e = .start name attributes ∧ st.Outgrows limit name ∧ err = .limitDigits := by
  cases e with
  | text s => cases h
  | start name attributes =>
    rcases ReaderState.start_cases h with
      ⟨-, rfl⟩ | ⟨_, -, -, -, rfl⟩ | ⟨rule, n, hoffers, hlimit, hn, rfl⟩ | ⟨rule, hallows, h⟩
    · exact .inl ⟨_, rfl⟩
    · exact .inl ⟨_, rfl⟩
    · unfold ReaderState.depthFailure
      split
      · exact .inl ⟨_, rfl⟩
      · next hlong =>
        exact .inr (.inr ⟨name, attributes, rfl, ⟨rule, n, hoffers, hlimit, hn, by simpa using hlong⟩,
          rfl⟩)
    · rcases openScalars_failure h with hdoc | ⟨n, kind, hplace, hreq, horder, hn⟩
      · exact .inl hdoc
      · exact .inr (.inl
          ⟨n, name, attributes, rfl, ⟨rule, kind, hallows, hplace, hreq, horder⟩, hn⟩)
  | finish name =>
    refine .inl ?_
    rcases ReaderState.finish_cases h with ⟨-, rfl⟩ | ⟨f, fs, hfs, ⟨-, rfl⟩ | ⟨-, h⟩⟩
    · exact ⟨_, rfl⟩
    · exact ⟨_, rfl⟩
    · -- an element that is open was started by the reader, so that its frame holds it
      cases hst with
      | behind before after e hname hb hes => cases hfs
      | inside before hopen hes =>
        cases hopen with
        | nil => cases hfs
        | cons hf _ =>
          cases hfs
          exact ⟨_, (hf.result_eq_error_iff.1 h).2.2.2⟩

theorem ReaderState.result_failure (h : st.result = .error err) : ∃ e, err = .document e := by
  unfold ReaderState.result at h
  split at h
  · cases h; exact ⟨_, rfl⟩
  · cases h; exact ⟨_, rfl⟩
  · cases h

theorem kind_of_read (h : read limit es = .ok root) : root.kind = .script := by
  obtain ⟨st, hrun, hst⟩ := bind_eq_ok.1 h
  obtain ⟨-, e, -, -, -, hbuild⟩ := (ReaderState.Reads.run hrun).result hst
  cases e with
  | mk name attributes body =>
    obtain ⟨children, -, -, hnode⟩ := Element.build_eq_some_iff.1 hbuild
    have hnode : (Kind.script.node? attributes (Element.ownText body) children).map Item.node =
        some (.node root) := hnode
    obtain ⟨n, hn, hroot⟩ := Option.map_eq_some_iff.1 hnode
    cases hroot
    obtain ⟨slots, -, rfl⟩ := Option.map_eq_some_iff.1 hn
    rfl

/-- The reading comes to an element with an order of `n` digits, which are too many, and all else
about the element is right. -/
def Overflows (limit : Option Int) (es : List Event) (n : Nat) : Prop :=
  ∃ before name attributes after st, es = before ++ .start name attributes :: after ∧
    before.foldlM (ReaderState.step limit) {} = .ok st ∧ st.TakesOrder limit name attributes ∧
    orderLength? attributes = some n ∧ Number.maxDigits < n

/-- The reading comes to an element that is deeper than a limit with too many digits, and nothing else
is wrong with the element. -/
def Outgrows (limit : Option Int) (es : List Event) : Prop :=
  ∃ before name attributes after st, es = before ++ .start name attributes :: after ∧
    before.foldlM (ReaderState.step limit) {} = .ok st ∧ st.Outgrows limit name

theorem run_failure (h : es.foldlM (ReaderState.step limit) {} = .error err) :
    (∃ re, err = .document re) ∨ (∃ n, Overflows limit es n ∧ err = .orderDigits n) ∨
      Outgrows limit es ∧ err = .limitDigits := by
  obtain ⟨before, e, after, st, rfl, hrun, hstep⟩ := exists_step_of_foldlM_error h
  rcases (ReaderState.Reads.run hrun).step_failure hstep with
    hdoc | ⟨n, name, attributes, rfl, htakes, hn, hlen, rfl⟩ | ⟨name, attributes, rfl, hdeep, rfl⟩
  · exact .inl hdoc
  · exact .inr (.inl ⟨n, ⟨before, name, attributes, after, st, rfl, hrun, htakes, hn, hlen⟩, rfl⟩)
  · exact .inr (.inr ⟨⟨before, name, attributes, after, st, rfl, hrun, hdeep⟩, rfl⟩)

/-- A document comes to a root, to a read error, or to a number with too many digits. -/
theorem read_cases (limit : Option Int) (es : List Event) :
    (∃ root, read limit es = .ok root ∧ root.kind = .script) ∨
      (∃ e : ReadError, read limit es = .error (.document e)) ∨ (∃ n, Overflows limit es n) ∨
      Outgrows limit es := by
  cases h : read limit es with
  | ok root => exact .inl ⟨root, rfl, kind_of_read h⟩
  | error err =>
    refine .inr ?_
    rcases bind_eq_error.1 h with h | ⟨st, -, h⟩
    · rcases run_failure h with ⟨e, rfl⟩ | ⟨n, hn, rfl⟩ | ⟨hdeep, rfl⟩
      · exact .inl ⟨e, rfl⟩
      · exact .inr (.inl ⟨n, hn⟩)
      · exact .inr (.inr hdeep)
    · obtain ⟨e, rfl⟩ := ReaderState.result_failure h
      exact .inl ⟨e, rfl⟩

theorem read_eq_error_of_step {before after : List Event}
    (hrun : before.foldlM (ReaderState.step limit) {} = .ok st)
    (hstep : st.step limit e = .error err) : read limit (before ++ e :: after) = .error err := by
  rw [read, List.foldlM_append, hrun]
  show (List.foldlM _ st (e :: after) >>= _) = _
  rw [List.foldlM_cons, hstep]
  rfl

theorem read_eq_error_of_order {before after : List Event}
    (hrun : before.foldlM (ReaderState.step limit) {} = .ok st)
    (htakes : st.TakesOrder limit name attributes)
    (hvalue : attribute? attributes Field.order.attributeName = some value)
    (hparse : parseOrder ⟨name, pathOf (name :: st.names)⟩ value = .error err) :
    read limit (before ++ .start name attributes :: after) = .error err := by
  obtain ⟨rule, kind, hallows, hplace, hreq, horder⟩ := htakes
  refine read_eq_error_of_step hrun ?_
  rw [ReaderState.step, hallows.start_eq, hplace, ReaderState.openScalars,
    readAttributes_eq_error_of_order hreq horder hvalue hparse]
  rfl

theorem Overflows.read_eq {n : Nat} (h : Overflows limit es n) :
    read limit es = .error (.orderDigits n) := by
  obtain ⟨before, name, attributes, after, st, rfl, hrun, htakes, hn, hlen⟩ := h
  obtain ⟨value, hvalue, hmap⟩ := Option.bind_eq_some_iff.1 hn
  obtain ⟨⟨negative, digits⟩, hdigits, rfl⟩ := Option.map_eq_some_iff.1 hmap
  exact read_eq_error_of_order hrun htakes hvalue (parseOrder_eq_orderDigits hdigits hlen)

theorem Outgrows.read_eq (h : Outgrows limit es) : read limit es = .error .limitDigits := by
  obtain ⟨before, name, attributes, after, st, rfl, hrun, hdeep⟩ := h
  exact read_eq_error_of_step hrun hdeep.start_eq

theorem not_outgrows_none : ¬ Outgrows none es := by
  rintro ⟨before, name, attributes, after, st, -, -, rule, n, -, hlimit, -⟩
  cases hlimit

theorem Overflows.ne_nil {n : Nat} (h : Overflows limit es n) : es ≠ [] := by
  obtain ⟨before, name, attributes, after, st, rfl, -⟩ := h
  simp

end Run

end Scaffold.Descriptor
