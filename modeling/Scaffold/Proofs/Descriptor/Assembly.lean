import Mathlib.Data.List.Nodup
import Scaffold.Proofs.Descriptor.Element
import Scaffold.Proofs.Outcome

/-!
# Nodes from converted attributes, text and children

The reader converts the attributes of an element when it starts and its text when it finishes, and
then assembles a node. Once both conversions have succeeded the assembly cannot fail, and it fills
each declared field as `Kind.node?` says (`exists_assemble`); and the conversions succeed for every
node that `Kind.node?` has (`exists_readAttributes`, `exists_readContent`).
-/

namespace Scaffold.Descriptor

open Markup (Attributes)

variable {site : Site} {name value text : String} {attributes : Attributes} {kind : Kind}
  {d : Declaration} {f : Field} {children : Children}

/-! ### Conversions -/

theorem parseOrder_eq_ok_iff {n : Int} : parseOrder site value = .ok n ↔ orderOf? value = some n := by
  unfold parseOrder orderOf?
  cases orderDigits? value.toList with
  | none => simp
  | some s =>
    obtain ⟨negative, digits⟩ := s
    by_cases hlen : digits.length ≤ Number.maxDigits
    · simp [hlen, Nat.not_lt.2 hlen]
    · simp [hlen, Nat.not_le.1 hlen]

theorem parseFlag_eq_ok_iff {x : Bool} :
    parseFlag site name value = .ok x ↔ truthOf? value = some x := by
  unfold parseFlag truthOf?
  split
  · next h => simp [h]
  · next h => simp [h]
  · next h h' => simp [if_neg h, if_neg h']

theorem convert_eq_ok_iff {s : Scalar} :
    d.convert site name value = .ok s ↔ d.shape.ofText? value = some s := by
  unfold Declaration.convert Shape.ofText?
  cases d.shape <;>
    simp [bind_eq_ok, parseOrder_eq_ok_iff, parseFlag_eq_ok_iff, pure, Except.pure]

/-! ### What a conversion brings to a field -/

section Brought

variable {ε : Type} {g : Declaration → Except ε (Option (Field × Scalar))}
  {ds : List Declaration} {os : List (Option (Field × Scalar))}

/-- The conversion brings contents to the field of the declaration, if to any. -/
def Own (g : Declaration → Except ε (Option (Field × Scalar))) : Prop :=
  ∀ d c, g d = .ok (some c) → c.1 = d.field

theorem Own.exists_declaration (hg : Own g) (h : List.Forall₂ (fun d o => g d = .ok o) ds os)
    {c : Field × Scalar} (hc : c ∈ os.filterMap id) : ∃ d ∈ ds, d.field = c.1 := by
  obtain ⟨o, ho, rfl⟩ := List.mem_filterMap.1 hc
  induction h with
  | nil => cases ho
  | @cons d o' ds os hd _ ih =>
    rcases List.mem_cons.1 ho with rfl | ho
    · exact ⟨d, List.mem_cons_self, (hg d c hd).symm⟩
    · obtain ⟨d', hd', hf⟩ := ih (List.mem_filterMap.2 ⟨some c, ho, rfl⟩) ho
      exact ⟨d', List.mem_cons_of_mem _ hd', hf⟩

/-- Where fields are declared once, a field has what its own declaration brings. -/
theorem Own.exists_lookup (hg : Own g) (h : List.Forall₂ (fun d o => g d = .ok o) ds os)
    (hn : (ds.map (·.field)).Nodup) (hd : d ∈ ds) :
    ∃ o, g d = .ok o ∧ (os.filterMap id).lookup d.field = o.map (·.2) := by
  induction h with
  | nil => cases hd
  | @cons d' o ds os ho h ih =>
    rw [List.map_cons, List.nodup_cons] at hn
    -- the other declarations bring nothing to the field of the first one
    have hfresh : ∀ c ∈ os.filterMap id, c.1 ≠ d'.field := fun c hc hf => by
      obtain ⟨d'', hd'', hf'⟩ := hg.exists_declaration h hc
      exact hn.1 (hf ▸ hf' ▸ List.mem_map_of_mem hd'')
    rcases List.mem_cons.1 hd with rfl | hd
    · refine ⟨o, ho, ?_⟩
      cases o with
      | none => exact List.lookup_eq_none_iff.2 fun c hc => bne_iff_ne.2 (hfresh c hc).symm
      | some c =>
        obtain ⟨f, s⟩ := c
        cases hg d _ ho
        exact List.lookup_cons_self
    · obtain ⟨o', ho', hl⟩ := ih hn.2 hd
      refine ⟨o', ho', ?_⟩
      cases o with
      | none => exact hl
      | some c =>
        obtain ⟨f, s⟩ := c
        cases hg d' _ ho
        have hne : d.field ≠ d'.field := fun hf => hn.1 (hf ▸ List.mem_map_of_mem hd)
        show List.lookup d.field ((d'.field, s) :: os.filterMap id) = _
        rw [List.lookup_cons, beq_false_of_ne hne]
        exact hl

end Brought

theorem own_ofAttributes (site : Site) (attributes : Attributes) :
    Own fun d => d.ofAttributes site attributes := by
  intro d c h
  dsimp only [Declaration.ofAttributes] at h
  split at h
  · cases h; rfl
  · split at h
    · cases h
    · obtain ⟨s, -, h⟩ := bind_eq_ok.1 h
      cases h
      rfl
  · cases h

theorem own_ofContent (site : Site) (text : String) : Own fun d => d.ofContent site text := by
  intro d c h
  dsimp only [Declaration.ofContent] at h
  split at h
  · obtain ⟨s, -, h⟩ := bind_eq_ok.1 h
    cases h
    rfl
  · cases h

/-! ### The schema -/

/-- The shape of a field suits the part of an element that fills it. -/
def Declaration.Coherent (d : Declaration) : Prop :=
  match d.origin with
  | .ownAttribute => d.shape ∈ [.text, .requiredText, .flag, .order, .texts]
  | .allAttributes => d.shape = .attributes
  | .content => d.shape ∈ [.text, .flag]
  | .elements => d.shape ∈ [.text, .texts, .node, .nodes]

instance : DecidablePred Declaration.Coherent
  | ⟨_, shape, .ownAttribute⟩ =>
    inferInstanceAs (Decidable (shape ∈ [.text, .requiredText, .flag, .order, .texts]))
  | ⟨_, shape, .allAttributes⟩ => inferInstanceAs (Decidable (shape = .attributes))
  | ⟨_, shape, .content⟩ => inferInstanceAs (Decidable (shape ∈ [.text, .flag]))
  | ⟨_, shape, .elements⟩ => inferInstanceAs (Decidable (shape ∈ [.text, .texts, .node, .nodes]))

theorem coherent_of_mem_schema (hd : d ∈ kind.schema) : d.Coherent := by
  revert d
  cases kind <;> decide

theorem nodup_schema (kind : Kind) : (kind.schema.map (·.field)).Nodup := by
  cases kind <;> decide

/-! ### One field -/

section Field

variable {oa oc : Option (Field × Scalar)} {site' : Site} {p : Parts}

/-- A field that an attribute or the text states has what that text gives; else it has nothing. -/
theorem stated_cases (horigin : d.origin = .ownAttribute ∨ d.origin = .content)
    (ha : d.ofAttributes site attributes = .ok oa) (hc : d.ofContent site' text = .ok oc) :
    (d.stated? attributes text = none ∧ (oa.map (·.2)).or (oc.map (·.2)) = none) ∨
      ∃ v s, d.stated? attributes text = some v ∧ d.shape.ofText? v = some s ∧
        (oa.map (·.2)).or (oc.map (·.2)) = some s := by
  -- only one of the two conversions has anything to do, as the origin says which
  rcases horigin with horigin | horigin
  · simp only [Declaration.ofAttributes, Declaration.ofContent, Declaration.stated?, horigin,
      reduceCtorEq, false_and, if_false] at ha hc ⊢
    cases hc
    cases hv : attribute? attributes d.field.attributeName with
    | none =>
      rw [hv] at ha
      cases ha
      exact .inl ⟨rfl, rfl⟩
    | some v =>
      simp only [hv, bind_eq_ok, convert_eq_ok_iff] at ha
      obtain ⟨s, hs, ha⟩ := ha
      cases ha
      exact .inr ⟨v, s, rfl, hs, rfl⟩
  · simp only [Declaration.ofAttributes, Declaration.ofContent, Declaration.stated?, horigin,
      true_and] at ha hc ⊢
    cases ha
    by_cases htext : text = ""
    · rw [if_neg (not_not.2 htext)] at hc
      cases hc
      exact .inl ⟨if_pos htext, rfl⟩
    · simp only [if_pos htext, bind_eq_ok, convert_eq_ok_iff] at hc
      obtain ⟨s, hs, hc⟩ := hc
      cases hc
      exact .inr ⟨text, s, if_neg htext, hs, rfl⟩

theorem fill_eq_ok {s : Scalar} (horigin : d.origin ≠ .elements)
    (hshape : d.shape ≠ .node ∧ d.shape ≠ .nodes)
    (h : (p.scalar? d.field).or d.shape.unstated? = some s) :
    d.fill kind p = .ok (.scalar d.field s) := by
  obtain ⟨f, shape, origin⟩ := d
  cases hs : p.scalar? f with
  | some s' =>
    simp only [hs, Option.some_or, Option.some.injEq] at h
    subst h
    cases shape <;> cases origin <;> simp_all [Declaration.fill]
  | none =>
    simp only [hs, Option.none_or] at h
    cases shape <;> cases origin <;> simp_all [Declaration.fill, Shape.unstated?]

theorem exists_unstated (horigin : d.origin = .ownAttribute ∨ d.origin = .content)
    (hd : d.Coherent) (hst : d.stated? attributes text = none)
    (hreq : d.shape = .requiredText → attribute? attributes d.field.attributeName ≠ none) :
    ∃ s, d.shape.unstated? = some s := by
  obtain ⟨f, shape, origin⟩ := d
  rcases horigin with rfl | rfl <;> cases shape <;>
    simp_all [Shape.unstated?, Declaration.stated?, Declaration.Coherent]

theorem slot?_eq_of_stated (horigin : d.origin = .ownAttribute ∨ d.origin = .content) :
    d.slot? attributes text children =
      match d.stated? attributes text with
      | some value => (d.shape.ofText? value).map (.scalar d.field)
      | none => d.shape.unstated?.map (.scalar d.field) := by
  obtain ⟨f, shape, origin⟩ := d
  rcases horigin with rfl | rfl <;> rfl

theorem exists_fill_of_stated (horigin : d.origin = .ownAttribute ∨ d.origin = .content)
    (hd : d.Coherent) (ha : d.ofAttributes site attributes = .ok oa)
    (hc : d.ofContent site' text = .ok oc)
    (hp : p.scalar? d.field = (oa.map (·.2)).or (oc.map (·.2)))
    (hreq : d.shape = .requiredText → attribute? attributes d.field.attributeName ≠ none) :
    ∃ slot, d.fill kind p = .ok slot ∧ d.slot? attributes text p.items = some slot := by
  have helements : d.origin ≠ .elements := by rcases horigin with h | h <;> simp [h]
  have hshape : d.shape ≠ .node ∧ d.shape ≠ .nodes := by
    constructor <;> intro h <;> rcases horigin with h' | h' <;>
      simp [Declaration.Coherent, h, h'] at hd
  rw [slot?_eq_of_stated horigin]
  rcases stated_cases horigin ha hc with ⟨hst, hnone⟩ | ⟨v, s, hst, hs, hsome⟩
  · obtain ⟨s, hs⟩ := exists_unstated horigin hd hst hreq
    refine ⟨.scalar d.field s, fill_eq_ok helements hshape ?_, by simp [hst, hs]⟩
    rw [hp, hnone, hs]
    rfl
  · refine ⟨.scalar d.field s, fill_eq_ok helements hshape ?_, by simp [hst, hs]⟩
    rw [hp, hsome]
    rfl

/-- Once its conversions have succeeded, a field is filled as `slot?` says. -/
theorem exists_fill (hd : d.Coherent) (ha : d.ofAttributes site attributes = .ok oa)
    (hc : d.ofContent site' text = .ok oc)
    (hp : p.scalar? d.field = (oa.map (·.2)).or (oc.map (·.2)))
    (hreq : d.shape = .requiredText → attribute? attributes d.field.attributeName ≠ none) :
    ∃ slot, d.fill kind p = .ok slot ∧ d.slot? attributes text p.items = some slot := by
  cases horigin : d.origin with
  | ownAttribute => exact exists_fill_of_stated (.inl horigin) hd ha hc hp hreq
  | content => exact exists_fill_of_stated (.inr horigin) hd ha hc hp hreq
  | elements =>
    obtain ⟨f, shape, origin⟩ := d
    cases horigin
    cases shape with
    | text | texts | node | nodes => exact ⟨_, rfl, rfl⟩
    | _ => simp [Declaration.Coherent] at hd
  | allAttributes =>
    obtain ⟨f, shape, origin⟩ := d
    cases horigin
    cases hd
    cases ha
    exact ⟨_, fill_eq_ok (by simp) (by simp) (by rw [hp]; rfl), rfl⟩

theorem exists_ofAttributes {slot : Slot} (h : d.slot? attributes text children = some slot)
    (site : Site) : ∃ o, d.ofAttributes site attributes = .ok o := by
  unfold Declaration.ofAttributes
  split
  · exact ⟨_, rfl⟩
  · next horigin =>
    rw [slot?_eq_of_stated (.inl horigin)] at h
    simp only [Declaration.stated?, horigin] at h
    cases hv : attribute? attributes d.field.attributeName with
    | none => exact ⟨_, rfl⟩
    | some v =>
      simp only [hv, Option.map_eq_some_iff] at h
      obtain ⟨s, hs, -⟩ := h
      exact ⟨_, bind_eq_ok.2 ⟨s, convert_eq_ok_iff.2 hs, rfl⟩⟩
  · exact ⟨_, rfl⟩

theorem exists_ofContent {slot : Slot} (h : d.slot? attributes text children = some slot)
    (site : Site) : ∃ o, d.ofContent site text = .ok o := by
  unfold Declaration.ofContent
  split
  · next hc =>
    obtain ⟨horigin, htext⟩ := hc
    rw [slot?_eq_of_stated (.inr horigin)] at h
    simp only [Declaration.stated?, horigin, if_neg htext, Option.map_eq_some_iff] at h
    obtain ⟨s, hs, -⟩ := h
    exact ⟨_, bind_eq_ok.2 ⟨s, convert_eq_ok_iff.2 hs, rfl⟩⟩
  · exact ⟨_, rfl⟩

theorem attribute?_ne_none {slot : Slot} (hd : d.Coherent) (hreq : d.shape = .requiredText)
    (h : d.slot? attributes text children = some slot) :
    attribute? attributes d.field.attributeName ≠ none := by
  intro hnone
  obtain ⟨f, shape, origin⟩ := d
  cases hreq
  cases origin with
  | ownAttribute =>
    rw [slot?_eq_of_stated (.inl rfl)] at h
    simp only [Declaration.stated?, hnone] at h
    cases h
  | _ => simp [Declaration.Coherent] at hd

end Field

/-! ### All fields -/

section Node

variable {site' : Site} {scalars content : List (Field × Scalar)} {n : Node}

theorem declared_iff :
    (kind.declaration? f).isSome ↔ ∃ d ∈ kind.schema, d.field = f := by
  simp [Kind.declaration?, List.find?_isSome]

theorem readAttributes_cases (h : kind.readAttributes site attributes = .ok scalars) :
    (∀ d ∈ kind.schema, d.shape = .requiredText →
      attribute? attributes d.field.attributeName ≠ none) ∧
    ∃ os, List.Forall₂ (fun d o => d.ofAttributes site attributes = .ok o) kind.schema os ∧
      scalars = os.filterMap id := by
  unfold Kind.readAttributes at h
  split at h
  · cases h
  · next hm =>
    obtain ⟨os, hos, h⟩ := bind_eq_ok.1 h
    cases h
    refine ⟨fun d hd hreq hnone => ?_, os, mapM_eq_ok_iff.1 hos, rfl⟩
    have := List.find?_eq_none.1 (Option.map_eq_none_iff.1 hm) d hd
    simp [hreq, hnone] at this

theorem readContent_cases (h : kind.readContent site text = .ok content) :
    ∃ os, List.Forall₂ (fun d o => d.ofContent site text = .ok o) kind.schema os ∧
      content = os.filterMap id := by
  obtain ⟨os, hos, h⟩ := bind_eq_ok.1 h
  cases h
  exact ⟨os, mapM_eq_ok_iff.1 hos, rfl⟩

/-- Once attributes and text are converted, the node is assembled as `node?` says. -/
theorem exists_assemble (hs : kind.readAttributes site attributes = .ok scalars)
    (hc : kind.readContent site' text = .ok content)
    (hchildren : ∀ c ∈ children, (kind.declaration? c.1).isSome) :
    ∃ n, Node.assemble kind ⟨scalars ++ content, children⟩ = .ok n ∧
      kind.node? attributes text children = some n := by
  obtain ⟨hreq, os, hos, rfl⟩ := readAttributes_cases hs
  obtain ⟨os', hos', rfl⟩ := readContent_cases hc
  -- nothing has been converted for a field that the kind does not declare
  have hdeclared : ((os.filterMap id ++ os'.filterMap id).map (·.1) ++ children.map (·.1)).find?
      (fun f => (kind.declaration? f).isNone) = none := by
    simp only [List.find?_eq_none, List.mem_append, List.mem_map, Option.isNone_iff_eq_none,
      ← Option.isSome_iff_ne_none]
    rintro f (⟨c, hc | hc, rfl⟩ | ⟨c, hc, rfl⟩)
    · exact declared_iff.2 ((own_ofAttributes site attributes).exists_declaration hos hc)
    · exact declared_iff.2 ((own_ofContent site' text).exists_declaration hos' hc)
    · exact hchildren c hc
  -- each declared field is filled from what was converted for it, or from the children
  have hslots : ∀ d ∈ kind.schema, ∃ slot,
      d.fill kind ⟨os.filterMap id ++ os'.filterMap id, children⟩ = .ok slot ∧
        d.slot? attributes text children = some slot := by
    intro d hd
    obtain ⟨oa, ha, hla⟩ :=
      (own_ofAttributes site attributes).exists_lookup hos (nodup_schema kind) hd
    obtain ⟨oc, hc, hlc⟩ := (own_ofContent site' text).exists_lookup hos' (nodup_schema kind) hd
    refine exists_fill (coherent_of_mem_schema hd) ha hc ?_ (hreq d hd)
    rw [Parts.scalar?, List.lookup_append, hla, hlc]
  obtain ⟨slots, hslots⟩ := exists_forall₂_iff.2 hslots
  have hfill := mapM_eq_ok_iff.2 (hslots.imp fun _ _ h => h.1)
  have hslot := mapM_eq_some_iff.2 (hslots.imp fun _ _ h => h.2)
  refine ⟨.mk kind slots, ?_, ?_⟩
  · simp only [Node.assemble, hdeclared, hfill]
    rfl
  · simp only [Kind.node?, hslot]
    rfl

theorem exists_slot_of_node? (h : kind.node? attributes text children = some n) :
    ∀ d ∈ kind.schema, ∃ slot, d.slot? attributes text children = some slot := by
  obtain ⟨slots, hslots, -⟩ := Option.map_eq_some_iff.1 h
  exact exists_forall₂_iff.1 ⟨slots, mapM_eq_some_iff.1 hslots⟩

theorem exists_readAttributes (h : kind.node? attributes text children = some n) (site : Site) :
    ∃ scalars, kind.readAttributes site attributes = .ok scalars := by
  have hslot := exists_slot_of_node? h
  have hmissing : kind.missing? attributes = none := by
    rw [Kind.missing?, Option.map_eq_none_iff, List.find?_eq_none]
    intro d hd
    obtain ⟨slot, hs⟩ := hslot d hd
    have hreq := fun hreq => attribute?_ne_none (coherent_of_mem_schema hd) hreq hs
    simpa using hreq
  obtain ⟨os, hos⟩ := exists_forall₂_iff.2 fun d hd =>
    exists_ofAttributes (hslot d hd).choose_spec site
  exact ⟨_, by rw [Kind.readAttributes, hmissing, mapM_eq_ok_iff.2 hos]; rfl⟩

theorem exists_readContent (h : kind.node? attributes text children = some n) (site : Site) :
    ∃ content, kind.readContent site text = .ok content := by
  have hslot := exists_slot_of_node? h
  obtain ⟨os, hos⟩ := exists_forall₂_iff.2 fun d hd =>
    exists_ofContent (hslot d hd).choose_spec site
  exact ⟨_, by rw [Kind.readContent, mapM_eq_ok_iff.2 hos]; rfl⟩

theorem node?_congr_text (h : (Place.node kind).keepsText = false) (text' : String) :
    kind.node? attributes text children = kind.node? attributes text' children := by
  have hslot : ∀ d ∈ kind.schema,
      d.slot? attributes text children = d.slot? attributes text' children := by
    intro d hd
    have horigin : d.origin ≠ .content := by
      simpa using List.any_eq_false.1 h d hd
    cases ho : d.origin with
    | content => exact absurd ho horigin
    | _ => simp only [Declaration.slot?, Declaration.stated?, ho]
  rw [Kind.node?, Kind.node?, mapM_congr hslot]

end Node

end Scaffold.Descriptor
