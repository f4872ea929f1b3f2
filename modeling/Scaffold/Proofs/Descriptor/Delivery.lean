import Scaffold.Proofs.Descriptor.Openings

/-!
# How text is delivered

A tokenizer may cut a text anywhere, and a document may have text where none is kept. Both make no
difference to the reader: two texts in a row are heard as one (`ReaderState.text_text`), so a run of
texts counts by what they are together (`ReaderState.run_texts`), and text inside an element that
keeps none leaves the state as it is. `Redelivered` relates documents that differ in such ways.
-/

namespace Scaffold.Descriptor

open Markup (Event Attributes)

/-- The same document with its texts cut elsewhere, and with other texts where none is kept. -/
inductive Redelivered : List Event → List Event → Prop
  | recut (before : List Event) {pieces pieces' : List String} (after : List Event)
      (h : String.join pieces = String.join pieces') :
      Redelivered (before ++ texts pieces ++ after) (before ++ texts pieces' ++ after)
  | unheard (before : List Event) (s : String) (after : List Event)
      (h : keepsTextIn (openNames before) = false) :
      Redelivered (before ++ [.text s] ++ after) (before ++ after)
  | refl (es : List Event) : Redelivered es es
  | symm {es es' : List Event} (h : Redelivered es es') : Redelivered es' es
  | trans {es es' es'' : List Event} (h : Redelivered es es') (h' : Redelivered es' es'') :
      Redelivered es es''

variable {st : ReaderState} {limit : Option Int}

/-! ### Texts at a state -/

namespace ReaderState

theorem text_text (st : ReaderState) (s s' : String) : (st.text s).text s' = st.text (s ++ s') := by
  obtain ⟨root, frames⟩ := st
  cases frames with
  | nil => rfl
  | cons f fs =>
    by_cases hkeep : f.place.keepsText = true
    · simp [text, hkeep, String.append_assoc]
    · simp [text, hkeep]

theorem text_empty (st : ReaderState) : st.text "" = st := by
  obtain ⟨root, frames⟩ := st
  cases frames with
  | nil => rfl
  | cons f fs =>
    by_cases hkeep : f.place.keepsText = true
    · simp [text, hkeep]
    · simp [text, hkeep]

theorem text_of_not_keepsText (h : st.place.keepsText = false) (s : String) : st.text s = st := by
  obtain ⟨root, frames⟩ := st
  cases frames with
  | nil => rfl
  | cons f fs =>
    have hkeep : f.place.keepsText = false := h
    simp [text, hkeep]

theorem run_texts (ss : List String) :
    (texts ss).foldlM (step limit) st = .ok (st.text (String.join ss)) := by
  induction ss generalizing st with
  | nil => exact congrArg Except.ok st.text_empty.symm
  | cons s ss ih =>
    show List.foldlM (step limit) (st.text s) (texts ss) = _
    rw [ih, text_text, String.join_cons]

end ReaderState

/-! ### Texts in a document -/

theorem read_congr_middle {before middle middle' after : List Event}
    (h : ∀ st, before.foldlM (ReaderState.step limit) {} = .ok st →
      middle.foldlM (ReaderState.step limit) st = middle'.foldlM (ReaderState.step limit) st) :
    read limit (before ++ middle ++ after) = read limit (before ++ middle' ++ after) := by
  have hmiddle : (before ++ middle).foldlM (ReaderState.step limit) {} =
      (before ++ middle').foldlM (ReaderState.step limit) {} := by
    rw [List.foldlM_append, List.foldlM_append]
    cases hst : before.foldlM (ReaderState.step limit) {} with
    | error err => rfl
    | ok st => exact h st hst
  have hrun : (before ++ middle ++ after).foldlM (ReaderState.step limit) {} =
      (before ++ middle' ++ after).foldlM (ReaderState.step limit) {} := by
    rw [List.foldlM_append, hmiddle, ← List.foldlM_append]
  rw [read, read, hrun]

/-- What the reader makes of a document, be it a root or an error, does not depend on how the text is
delivered. -/
theorem outcome_ignores_delivery {es es' : List Event} (h : Redelivered es es')
    (limit : Option Int) : read limit es = read limit es' := by
  induction h with
  | recut before after h =>
    refine read_congr_middle fun st _ => ?_
    rw [ReaderState.run_texts, ReaderState.run_texts, h]
  | unheard before s after h =>
    have hsame : read limit (before ++ [.text s] ++ after) = read limit (before ++ [] ++ after) := by
      refine read_congr_middle fun st hst => ?_
      have hkeep : st.place.keepsText = false := by
        rw [(ReaderState.Reads.run hst).keepsText_eq, h]
      exact congrArg Except.ok (ReaderState.text_of_not_keepsText hkeep s)
    rw [hsame, List.append_nil]
  | refl es => rfl
  | symm _ ih => exact ih.symm
  | trans _ _ ih ih' => exact ih.trans ih'

/-- A script with a help, its text in pieces, and text inside and outside of the root. -/
def helpDocument (pieces outer inner : List String) : List Event :=
  texts outer ++ ([.start "archetype-script" [], .start "help" []] ++ texts pieces ++
    [.finish "help"] ++ texts inner ++ [.finish "archetype-script"])

theorem outcome_of_help_in_pieces :
    read (some 2) (helpDocument ["re", "", "ad"] ["\n"] [" "]) =
      read (some 2) (helpDocument ["read"] [] []) := by
  have houter : Redelivered (helpDocument ["re", "", "ad"] ["\n"] [" "])
      (helpDocument ["re", "", "ad"] [] [" "]) := .unheard [] "\n" _ rfl
  have hinner : Redelivered (helpDocument ["re", "", "ad"] [] [" "])
      (helpDocument ["re", "", "ad"] [] []) :=
    .unheard ([.start "archetype-script" [], .start "help" []] ++ texts ["re", "", "ad"] ++
      [.finish "help"]) " " [.finish "archetype-script"] (by decide)
  have hjoin : String.join ["re", "", "ad"] = String.join ["read"] := by decide
  have hcut : Redelivered (helpDocument ["re", "", "ad"] [] []) (helpDocument ["read"] [] []) :=
    .recut [.start "archetype-script" [], .start "help" []]
      [.finish "help", .finish "archetype-script"] hjoin
  exact outcome_ignores_delivery ((houter.trans hinner).trans hcut) (some 2)

end Scaffold.Descriptor
