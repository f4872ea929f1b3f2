import Scaffold.Markup.Event
import Scaffold.Proofs.Text.Trimming

/-!
# Runs of text between tags

What a tokenizer delivers is tags with pieces of text between them. `Collected` says what is to come
of it: the tags as they are, each with one text before it, which is all the pieces since the last tag
together and trimmed, or with none if these are blank. `collect_normalises_text` says that `collect`
does just this, and that neither the cuts between pieces nor blanks beside a tag show in what comes of
it (`Retold`). Tags need not match: nothing is said about elements.
-/

namespace Scaffold.Markup.Event

open Text (Blank Trims Unpadded)

def isTag : Event → Bool
  | text _ => false
  | start .. | finish _ => true

inductive Collected : List Event → List Event → Prop
  | rest (ss : List String) : Collected (ss.map text) []
  | silent (ss : List String) {tag : Event} {es out : List Event} (htag : tag.isTag = true)
      (hss : Blank (String.join ss).toList) (h : Collected es out) :
      Collected (ss.map text ++ tag :: es) (tag :: out)
  | spoken (ss : List String) {s : String} {tag : Event} {es out : List Event}
      (htag : tag.isTag = true) (hs : s ≠ "") (hss : Trims (String.join ss).toList s.toList)
      (h : Collected es out) : Collected (ss.map text ++ tag :: es) (text s :: tag :: out)

/-- The same tags, with the pieces of text cut elsewhere or with other blanks beside the tags. -/
inductive Retold : List Event → List Event → Prop
  | recut (before : List Event) {ss ss' : List String} (after : List Event)
      (h : String.join ss = String.join ss') :
      Retold (before ++ (ss.map text ++ after)) (before ++ (ss'.map text ++ after))
  | blankBefore (before : List Event) {tag : Event} {s : String} (after : List Event)
      (htag : tag.isTag = true) (hs : Blank s.toList) :
      Retold (before ++ text s :: tag :: after) (before ++ tag :: after)
  | blankAfter (before : List Event) {tag : Event} {s : String} (after : List Event)
      (htag : tag.isTag = true) (hs : Blank s.toList) :
      Retold (before ++ tag :: text s :: after) (before ++ tag :: after)
  | refl (es : List Event) : Retold es es
  | symm {es es' : List Event} (h : Retold es es') : Retold es' es
  | trans {es es' es'' : List Event} (h : Retold es es') (h' : Retold es' es'') : Retold es es''

variable {tag : Event} {es es' out before after : List Event} {ss : List String} {run s : String}

/-! ### One run of text -/

theorem flush_of_blank (h : Blank run.toList) : flush run = [] := by
  have hnil : Text.trim run.toList = [] := Text.trim_eq_nil_iff.2 h
  simp [flush, Text.trimmed, hnil]

theorem flush_of_trims (h : Trims run.toList s.toList) (hs : s ≠ "") : flush run = [text s] := by
  have htrim : Text.trimmed run = s := by rw [Text.trimmed, h.trim_eq, String.ofList_toList]
  simp only [flush, htrim, if_neg hs]

theorem flush_congr (h : Text.trim run.toList = Text.trim s.toList) : flush run = flush s := by
  have htrim : Text.trimmed run = Text.trimmed s := by rw [Text.trimmed, h, Text.trimmed]
  rw [flush, htrim]
  rfl

/-! ### From tag to tag -/

theorem collectFrom_tag (htag : tag.isTag = true) :
    collectFrom run (tag :: es) = flush run ++ tag :: collectFrom "" es := by
  cases tag with
  | text s => cases htag
  | start name attributes => rfl
  | finish name => rfl

theorem collectFrom_texts (run : String) (ss : List String) (es : List Event) :
    collectFrom run (ss.map text ++ es) = collectFrom (run ++ String.join ss) es := by
  induction ss generalizing run with
  | nil => simp
  | cons s ss ih =>
    show collectFrom (run ++ s) (ss.map text ++ es) = _
    rw [ih, String.join_cons, String.append_assoc]

theorem collect_texts_tag (ss : List String) (htag : tag.isTag = true) :
    collect (ss.map text ++ tag :: es) = flush (String.join ss) ++ tag :: collect es := by
  rw [collect, collectFrom_texts, String.empty_append, collectFrom_tag htag]
  rfl

theorem collect_texts (ss : List String) : collect (ss.map text) = [] := by
  have h := collectFrom_texts "" ss []
  rw [List.append_nil] at h
  exact h

theorem exists_texts (es : List Event) :
    ∃ ss : List String, es = ss.map text ∨
      ∃ tag rest, isTag tag = true ∧ es = ss.map text ++ tag :: rest := by
  induction es with
  | nil => exact ⟨[], .inl rfl⟩
  | cons e es ih =>
    cases e with
    | text s =>
      obtain ⟨ss, rfl | ⟨tag, rest, htag, rfl⟩⟩ := ih
      · exact ⟨s :: ss, .inl rfl⟩
      · exact ⟨s :: ss, .inr ⟨tag, rest, htag, rfl⟩⟩
    | start name attributes => exact ⟨[], .inr ⟨_, es, rfl, rfl⟩⟩
    | finish name => exact ⟨[], .inr ⟨_, es, rfl, rfl⟩⟩

/-! ### What comes of the events -/

namespace Collected

theorem eq_collect (h : Collected es out) : collect es = out := by
  induction h with
  | rest ss => exact collect_texts ss
  | silent ss htag hss _ ih =>
    rw [collect_texts_tag ss htag, flush_of_blank hss, ih]
    rfl
  | spoken ss htag hs hss _ ih =>
    rw [collect_texts_tag ss htag, flush_of_trims hss hs, ih]
    rfl

theorem filter_isTag (h : Collected es out) : out.filter isTag = es.filter isTag := by
  have hnone : ∀ ss : List String, (ss.map text).filter isTag = [] := by
    intro ss
    simp [isTag]
  induction h with
  | rest ss => rw [hnone]; rfl
  | silent ss htag _ _ ih =>
    rw [List.filter_append, hnone, List.nil_append, List.filter_cons_of_pos htag,
      List.filter_cons_of_pos htag, ih]
  | spoken ss htag _ _ _ ih =>
    rw [List.filter_append, hnone, List.nil_append, List.filter_cons_of_neg (by simp [isTag]),
      List.filter_cons_of_pos htag, List.filter_cons_of_pos htag, ih]

theorem tidy (h : Collected es out) (hs : text s ∈ out) : s ≠ "" ∧ Unpadded s.toList := by
  induction h with
  | rest ss => cases hs
  | silent ss htag _ _ ih =>
    rcases List.mem_cons.1 hs with rfl | hs
    · cases htag
    · exact ih hs
  | spoken ss htag hne hss _ ih =>
    rcases List.mem_cons.1 hs with heq | hs
    · cases heq
      exact ⟨hne, hss.unpadded⟩
    · rcases List.mem_cons.1 hs with rfl | hs
      · cases htag
      · exact ih hs

/-- After a text there is a tag. -/
theorem followed (h : Collected es out) {xs ys : List Event} (hout : out = xs ++ text s :: ys) :
    ∃ tag ys', tag.isTag = true ∧ ys = tag :: ys' := by
  induction h generalizing xs with
  | rest ss => simp at hout
  | @silent ss tag es out htag _ _ ih =>
    cases xs with
    | nil =>
      have hhead : tag :: out = text s :: ys := hout
      cases hhead
      cases htag
    | cons x xs => exact ih (List.cons.inj hout).2
  | @spoken ss s' tag es out htag _ _ _ ih =>
    cases xs with
    | nil => exact ⟨tag, out, htag, (List.cons.inj hout).2.symm⟩
    | cons x xs =>
      have htail : tag :: out = xs ++ text s :: ys := (List.cons.inj hout).2
      cases xs with
      | nil =>
        cases htail
        cases htag
      | cons x' xs => exact ih (List.cons.inj htail).2

end Collected

theorem collected (es : List Event) : Collected es (collect es) := by
  obtain ⟨n, hn⟩ : ∃ n, es.length = n := ⟨_, rfl⟩
  induction n using Nat.strongRecOn generalizing es with
  | ind n ih =>
    obtain ⟨ss, rfl | ⟨tag, rest, htag, rfl⟩⟩ := exists_texts es
    · rw [collect_texts]
      exact .rest ss
    have hrest : Collected rest (collect rest) := by
      refine ih _ ?_ rest rfl
      rw [← hn, List.length_append, List.length_cons]
      omega
    rw [collect_texts_tag ss htag]
    by_cases hblank : Blank (String.join ss).toList
    · rw [flush_of_blank hblank]
      exact .silent ss htag hblank hrest
    · have htrims : Trims (String.join ss).toList (Text.trimmed (String.join ss)).toList := by
        rw [Text.trimmed, String.toList_ofList]
        exact Text.trims_trim _
      have hne : Text.trimmed (String.join ss) ≠ "" := by
        intro hempty
        rw [hempty, Text.trims_iff] at htrims
        exact hblank (Text.trim_eq_nil_iff.1 htrims)
      rw [flush_of_trims htrims hne]
      exact .spoken ss htag hne htrims hrest

/-! ### What does not show -/

theorem collectFrom_congr_append (h : ∀ run, collectFrom run es = collectFrom run es')
    (before : List Event) (run : String) :
    collectFrom run (before ++ es) = collectFrom run (before ++ es') := by
  induction before generalizing run with
  | nil => exact h run
  | cons e before ih =>
    cases e with
    | text s => exact ih (run ++ s)
    | start name attributes => simp only [List.cons_append, collectFrom, ih]
    | finish name => simp only [List.cons_append, collectFrom, ih]

theorem collectFrom_blank_append (h : Blank s.toList) (run : String) (es : List Event) :
    collectFrom (s ++ run) es = collectFrom run es := by
  have hflush : ∀ run, flush (s ++ run) = flush run := by
    intro run
    refine flush_congr ?_
    rw [String.toList_append, Text.trim_blank_append h]
  induction es generalizing run with
  | nil => rfl
  | cons e es ih =>
    cases e with
    | text s' =>
      show collectFrom (s ++ run ++ s') es = collectFrom (run ++ s') es
      rw [String.append_assoc, ih]
    | start name attributes => simp only [collectFrom, hflush]
    | finish name => simp only [collectFrom, hflush]

theorem Retold.collect_eq (h : Retold es es') : collect es = collect es' := by
  induction h with
  | @recut before ss ss' after h =>
    refine collectFrom_congr_append (fun run => ?_) before ""
    rw [collectFrom_texts, collectFrom_texts, h]
  | @blankBefore before tag s after htag hs =>
    refine collectFrom_congr_append (fun run => ?_) before ""
    show collectFrom (run ++ s) (tag :: after) = _
    have hflush : flush (run ++ s) = flush run := by
      refine flush_congr ?_
      rw [String.toList_append, Text.trim_append_blank hs]
    rw [collectFrom_tag htag, collectFrom_tag htag, hflush]
  | @blankAfter before tag s after htag hs =>
    refine collectFrom_congr_append (fun run => ?_) before ""
    have hblank := collectFrom_blank_append hs "" after
    rw [String.append_empty] at hblank
    rw [collectFrom_tag htag, collectFrom_tag htag]
    show flush run ++ tag :: collectFrom ("" ++ s) after = _
    rw [String.empty_append, hblank]
  | refl es => rfl
  | symm _ ih => exact ih.symm
  | trans _ _ ih ih' => exact ih.trans ih'

/-- **Text is collected run by run.** What comes of the events is what `Collected` says and nothing
else. So the tags are all there, in their order, no text is empty or padded, a tag follows every text,
and events that differ only in the cuts between texts and in blanks beside tags come to the same. -/
theorem collect_normalises_text (es : List Event) :
    (∀ out, Collected es out ↔ collect es = out) ∧
    (collect es).filter isTag = es.filter isTag ∧
    (∀ s, text s ∈ collect es → s ≠ "" ∧ Unpadded s.toList) ∧
    (∀ xs s ys, collect es = xs ++ text s :: ys → ∃ tag ys', tag.isTag = true ∧ ys = tag :: ys') ∧
    ∀ es', Retold es es' → collect es' = collect es := by
  have hes := collected es
  refine ⟨fun out => ⟨Collected.eq_collect, ?_⟩, hes.filter_isTag, fun s => hes.tidy, ?_, ?_⟩
  · rintro rfl
    exact hes
  · intro xs s ys hout
    exact hes.followed hout
  · intro es' h
    exact h.collect_eq.symm

/-- Cut in two, with a line break and a no-break space beside the tags. -/
theorem collect_of_padded_pieces :
    collect [start "help" [], text "\n", text "a", text " b", text "\u00a0", finish "help", text "c"] =
      [start "help" [], text "a b", finish "help"] := by
  have hafter : Retold
      [start "help" [], text "\n", text "a", text " b", text "\u00a0", finish "help", text "c"]
      [start "help" [], text "a", text " b", text "\u00a0", finish "help", text "c"] :=
    .blankAfter [] _ rfl (by decide)
  have hbefore : Retold
      [start "help" [], text "a", text " b", text "\u00a0", finish "help", text "c"]
      [start "help" [], text "a", text " b", finish "help", text "c"] :=
    .blankBefore [start "help" [], text "a", text " b"] _ rfl (by decide)
  have hcut : Retold
      [start "help" [], text "a", text " b", finish "help", text "c"]
      [start "help" [], text "a b", finish "help", text "c"] :=
    .recut [start "help" []] [finish "help", text "c"]
      (show String.join ["a", " b"] = String.join ["a b"] by decide)
  rw [(collect_normalises_text _).2.2.2.2 _ ((hafter.trans hbefore).trans hcut).symm]
  decide

end Scaffold.Markup.Event
