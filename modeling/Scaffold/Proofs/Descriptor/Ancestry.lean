import Scaffold.Proofs.Descriptor.Failures
import Scaffold.Proofs.Descriptor.Openings

/-!
# Errors and the elements around them

`Arises` lists what can be wrong when an event comes, or none is left, while some elements are open:
one constructor for each check that the reader makes, with the error that says so. The path of every
error leads through the open elements (`Arises.path?_eq`), and an unexpected element is told its
parent, the innermost one (`Arises.parent_eq`). The errors of a reader are all of this kind, with the
open elements told from the events before the wrong one (`StopsAt.arises`).
-/

namespace Scaffold.Descriptor

open Markup (Event Attributes)

/-- What is wrong with an event, or with the end of the document, inside the elements `os`, innermost
first. -/
inductive Arises (os : List Opening) : Option Event → ReadError → Prop
  | unexpected {name : String} {attributes : Attributes} :
      Arises os (some (.start name attributes))
        (.unexpectedElement (os.map (·.name)).head? name (pathOf (name :: os.map (·.name))))
  | duplicate {name : String} {attributes : Attributes} (h : os ≠ []) :
      Arises os (some (.start name attributes)) (.duplicate name (pathOf (name :: os.map (·.name))))
  | tooDeep {name : String} {attributes : Attributes} {limit : Int} (h : limit < os.length + 1)
      (hlimit : (Number.integer limit).isWritable = true) :
      Arises os (some (.start name attributes)) (.tooDeep limit (pathOf (name :: os.map (·.name))))
  | missingAttribute {name : String} {attributes : Attributes} {required : String}
      (h : attribute? attributes required = none) :
      Arises os (some (.start name attributes))
        (.missingAttribute required name (pathOf (name :: os.map (·.name))))
  | invalidOrder {name : String} {attributes : Attributes} {value : String}
      (h : attribute? attributes "order" = some value) :
      Arises os (some (.start name attributes))
        (.invalidOrder value name (pathOf (name :: os.map (·.name))))
  | invalidOptional {name : String} {attributes : Attributes} {value : String}
      (h : attribute? attributes "optional" = some value) :
      Arises os (some (.start name attributes))
        (.invalidValue "optional" value name (pathOf (name :: os.map (·.name))))
  | unopened {name : String} (h : os = []) :
      Arises os (some (.finish name)) (.unexpectedElement none name name)
  | mismatched {o : Opening} {name : String} (ho : os.head? = some o) (hname : o.name ≠ name) :
      Arises os (some (.finish name))
        (.unexpectedElement (some o.name) name (pathOf (os.map (·.name))))
  | misstated {o : Opening} (ho : os.head? = some o) (h : Misstated os) :
      Arises os (some (.finish o.name))
        (.invalidValue o.name o.text o.name (pathOf (os.map (·.name))))
  | unclosed {o : Opening} (ho : os.head? = some o) :
      Arises os none (.unclosed o.name (pathOf (os.map (·.name))))
  | empty (h : os = []) : Arises os none .emptyDocument

/-- The path to an event, or to the end of the document, inside the elements with these names,
innermost first. -/
def sitePath (names : List String) : Option Event → Option String
  | some (.start name _) => some ("/".intercalate (names.reverse ++ [name]))
  | some (.finish name) => some (if names = [] then name else "/".intercalate names.reverse)
  | some (.text _) => none
  | none => if names = [] then none else some ("/".intercalate names.reverse)

namespace Arises

variable {os : List Opening} {next : Option Event} {e : ReadError}

theorem map_name_ne_nil {o : Opening} (h : os.head? = some o) : os.map (·.name) ≠ [] := by
  intro hnil
  rw [List.map_eq_nil_iff] at hnil
  simp [hnil] at h

theorem path?_eq (h : Arises os next e) : e.path? = sitePath (os.map (·.name)) next := by
  cases h with
  | unexpected | duplicate | tooDeep | missingAttribute | invalidOrder | invalidOptional =>
    simp [ReadError.path?, sitePath, pathOf]
  | unopened h => simp [ReadError.path?, sitePath, h]
  | mismatched ho | misstated ho | unclosed ho =>
    have hne := map_name_ne_nil ho
    simp only [ReadError.path?, sitePath, if_neg hne]
    rfl
  | empty h => simp [ReadError.path?, sitePath, h]

theorem path?_eq_none_iff (h : Arises os next e) : e.path? = none ↔ e = .emptyDocument := by
  cases h <;> simp [ReadError.path?]

theorem parent_eq {parent : Option String} {name path : String}
    (h : Arises os next (.unexpectedElement parent name path)) :
    parent = (os.map (·.name)).head? := by
  cases h with
  | unexpected => rfl
  | unopened h => simp [h]
  | mismatched ho => simp [ho]

end Arises

/-! ### Checks of the reader -/

section Checks

variable {kind : Kind} {d : Declaration} {site : Site} {name : String} {attributes : Attributes}
  {e : ReadError} {st : ReaderState} {limit : Option Int} {es : List Event}

theorem eq_optional_of_mem_schema (hd : d ∈ kind.schema) (horigin : d.origin = .ownAttribute)
    (hshape : d.shape = .flag) : d.field = .optional := by
  revert d
  cases kind <;> decide

theorem readAttributes_document (h : kind.readAttributes site attributes = .error (.document e)) :
    (∃ required, attribute? attributes required = none ∧
      e = .missingAttribute required site.element site.path) ∨
    (∃ value, attribute? attributes "order" = some value ∧
      e = .invalidOrder value site.element site.path) ∨
    ∃ value, attribute? attributes "optional" = some value ∧
      e = .invalidValue "optional" value site.element site.path := by
  unfold Kind.readAttributes at h
  split at h
  · next f hmissing =>
    cases h
    obtain ⟨d, hd, rfl⟩ := Option.map_eq_some_iff.1 hmissing
    have hnone := List.find?_some hd
    simp only [Bool.and_eq_true, Option.isNone_iff_eq_none] at hnone
    exact .inl ⟨_, hnone.2, rfl⟩
  · -- nothing required is missing, so an order or a truth value cannot be converted
    rcases bind_eq_error.1 h with h | ⟨os, -, h⟩
    · obtain ⟨d, hd, h⟩ := exists_error_of_mapM h
      obtain ⟨horigin, value, hvalue, hconv⟩ := ofAttributes_cases h
      rcases convert_cases hconv with ⟨hshape, horder⟩ | ⟨hshape, hflag⟩
      · cases eq_order_of_mem_schema hd hshape
        rcases parseOrder_cases horder with ⟨-, he⟩ | ⟨n, -, -, he⟩
        · cases he
          exact .inr (.inl ⟨value, hvalue, rfl⟩)
        · cases he
      · rw [eq_optional_of_mem_schema hd horigin hshape] at hvalue hflag
        cases (parseFlag_eq_error_iff.1 hflag).2
        exact .inr (.inr ⟨value, hvalue, rfl⟩)
    · cases h

theorem ReaderState.Reads.arises_start (hst : st.Reads es)
    (h : st.start limit name attributes = .error (.document e)) :
    Arises (openings es) (some (.start name attributes)) e := by
  have hnames : st.names = (openings es).map (·.name) := hst.names_eq
  have hlength := hst.opens.length_eq
  have hcases := ReaderState.start_cases h
  rw [hnames] at hcases
  -- in the order of the checks: no rule, a second child, too deep, and the attributes
  rcases hcases with ⟨-, he⟩ | ⟨rule, -, -, -, he⟩ | ⟨_, n, -, -, hn, he⟩ | ⟨rule, -, hs⟩
  · cases he
    exact .unexpected
  · by_cases hos : openings es = []
    · -- a second root
      have hempty : st.frames.isEmpty = true := by
        rw [List.isEmpty_iff_length_eq_zero, hlength, hos]
        rfl
      rw [if_pos hempty, hos] at he
      cases he
      rw [hos]
      exact .unexpected
    · have hempty : ¬ st.frames.isEmpty = true := by
        rw [List.isEmpty_iff_length_eq_zero, hlength, List.length_eq_zero_iff]
        exact hos
      rw [if_neg hempty] at he
      cases he
      exact .duplicate hos
  · unfold ReaderState.depthFailure at he
    split at he
    · next hlimit =>
      rw [hnames] at he
      cases he
      exact .tooDeep (by omega) hlimit
    · cases he
  · cases hplace : rule.place with
    | node kind =>
      rw [hplace] at hs
      rcases readAttributes_document hs with ⟨_, ha, rfl⟩ | ⟨_, ha, rfl⟩ | ⟨_, ha, rfl⟩
      · exact .missingAttribute ha
      · exact .invalidOrder ha
      · exact .invalidOptional ha
    | document | text | includes | excludes =>
      rw [hplace] at hs
      cases hs

theorem ReaderState.Reads.arises_finish (hst : st.Reads es)
    (h : st.finish name = .error (.document e)) :
    Arises (openings es) (some (.finish name)) e := by
  have hnames : st.names = (openings es).map (·.name) := hst.names_eq
  have hopen := hst.opens
  rcases ReaderState.finish_cases h with ⟨hfs, he⟩ | ⟨f, fs, hfs, hwrong⟩
  · cases he
    refine .unopened ?_
    rw [← List.length_eq_zero_iff, ← hopen.length_eq, hfs]
    rfl
  · rw [hfs] at hopen
    rw [hnames] at hwrong
    obtain ⟨o, os, hos, hf⟩ := hopen.exists_opening
    rw [hos] at hopen hwrong ⊢
    rcases hwrong with ⟨hname, he⟩ | ⟨rfl, hresult⟩
    · cases he
      rw [hf.name] at hname ⊢
      exact .mismatched rfl hname
    · obtain ⟨hplace, htext, htruth, he⟩ := hf.result_eq_error_iff.1 hresult
      cases he
      rw [hf.text_of_contextBoolean hplace, hf.name]
      exact .misstated rfl (hopen.misstated_iff.2 ⟨hplace, htext, htruth⟩)

theorem ReaderState.Reads.arises_result (hst : st.Reads es) (h : st.result = .error (.document e)) :
    Arises (openings es) none e := by
  have hnames : st.names = (openings es).map (·.name) := hst.names_eq
  have hopen := hst.opens
  obtain ⟨root, fs⟩ := st
  cases fs with
  | nil =>
    have hnil : openings es = [] := List.map_eq_nil_iff.1 hnames.symm
    rw [hnil]
    cases root with
    | none => cases h; exact .empty rfl
    | some root => cases h
  | cons f fs =>
    obtain ⟨o, os, hos, hf⟩ := hopen.exists_opening
    simp only [ReaderState.result, hnames] at h
    cases h
    rw [hos, hf.name]
    exact .unclosed rfl

end Checks

/-! ### Errors of a reading -/

/-- The reader accepts the events `before` and stops at the next event, or at the end of the document
if there is none. -/
def StopsAt (limit : Option Int) (before : List Event) (next : Option Event) (err : ReadFailure) :
    Prop :=
  ∃ st, before.foldlM (ReaderState.step limit) {} = .ok st ∧
    match next with
    | some e => st.step limit e = .error err
    | none => st.result = .error err

/-- A reading fails where the reader stops. -/
theorem read_eq_error_iff {limit : Option Int} {es : List Event} {err : ReadFailure} :
    read limit es = .error err ↔
      ∃ before rest, es = before ++ rest ∧ StopsAt limit before rest.head? err := by
  constructor
  · intro h
    rcases bind_eq_error.1 h with h | ⟨st, hrun, h⟩
    · obtain ⟨before, e, after, st, rfl, hrun, hstep⟩ := exists_step_of_foldlM_error h
      exact ⟨before, e :: after, rfl, st, hrun, hstep⟩
    · exact ⟨es, [], (List.append_nil es).symm, st, hrun, h⟩
  · rintro ⟨before, rest, rfl, st, hrun, hstop⟩
    cases rest with
    | nil =>
      rw [List.append_nil]
      exact bind_eq_error.2 (.inr ⟨st, hrun, hstop⟩)
    | cons e rest =>
      refine bind_eq_error.2 (.inl ?_)
      rw [List.foldlM_append, bind_eq_error]
      refine .inr ⟨st, hrun, ?_⟩
      rw [List.foldlM_cons, bind_eq_error]
      exact .inl hstop

theorem StopsAt.arises {limit : Option Int} {before : List Event} {next : Option Event}
    {e : ReadError} (h : StopsAt limit before next (.document e)) :
    Arises (openings before) next e := by
  obtain ⟨st, hrun, h⟩ := h
  have hst := ReaderState.Reads.run hrun
  cases next with
  | none => exact hst.arises_result h
  | some event =>
    cases event with
    | start name attributes => exact hst.arises_start h
    | text s => cases h
    | finish name => exact hst.arises_finish h

/-- Every error of a fresh reader says where it is: at the event that is wrong, or at the end of the
document, with the path through the elements that are open there. -/
theorem read_error_carries_path (limit : Option Int) (es : List Event) (e : ReadError)
    (h : (Reader.read { maxDepth := limit } { events := es }).1 = .error (.document e)) :
    ∃ before rest, es = before ++ rest ∧ StopsAt limit before rest.head? (.document e) ∧
      Arises (openings before) rest.head? e ∧
      e.path? = sitePath (openNames before) rest.head? ∧
      (e.path? = none ↔ e = .emptyDocument) ∧
      ∀ parent name path, e = .unexpectedElement parent name path →
        parent = (openNames before).head? := by
  have hread : read limit es = .error (.document e) := h
  obtain ⟨before, rest, hes, hstop⟩ := read_eq_error_iff.1 hread
  have harises := hstop.arises
  refine ⟨before, rest, hes, hstop, harises, harises.path?_eq, harises.path?_eq_none_iff, ?_⟩
  rintro parent name path rfl
  exact harises.parent_eq

/-- Templates with two directories. -/
def secondDirectory : List Event :=
  [.start "archetype-script" [], .start "output" [], .start "templates" [], .text "\n",
    .start "directory" [], .text "src", .finish "directory", .start "directory" []]

theorem path_of_second_directory :
    (Reader.read { maxDepth := some 4 } { events := secondDirectory }).1 =
      .error (.document (.duplicate "directory" "archetype-script/output/templates/directory")) ∧
    ∃ before rest, secondDirectory = before ++ rest ∧
      StopsAt (some 4) before rest.head?
        (.document (.duplicate "directory" "archetype-script/output/templates/directory")) ∧
      some "archetype-script/output/templates/directory" =
        sitePath (openNames before) rest.head? := by
  have h : (Reader.read { maxDepth := some 4 } { events := secondDirectory }).1 = .error (.document
      (.duplicate "directory" "archetype-script/output/templates/directory")) := rfl
  obtain ⟨before, rest, hes, hstop, -, hpath, -⟩ := read_error_carries_path _ _ _ h
  exact ⟨h, before, rest, hes, hstop, hpath⟩

end Scaffold.Descriptor
