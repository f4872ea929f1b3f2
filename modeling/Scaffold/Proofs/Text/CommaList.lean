import Scaffold.Proofs.Text.Trimming
import Scaffold.Text.CommaList

/-!
# What a comma list says

`Lists` says without a split which items a text lists: between commas there is an item with blanks
around it, or there are blanks only. A text lists one row of items, and `items` finds it
(`lists_iff`). `Joins` writes a row of items down, with a comma and any blanks around it between each
two; what is written so lists the same items (`Joins.lists`), which makes them a normal form
(`items_are_normal_form`).
-/

namespace Scaffold.Text.CommaList

structure IsItem (x : String) : Prop where
  ne_empty : x ≠ ""
  comma_notMem : ',' ∉ x.toList
  unpadded : Unpadded x.toList

inductive Lists : String → List String → Prop
  | blank {s : String} (hs : Blank s.toList) : Lists s []
  | item {before x after : String} (hbefore : Blank before.toList) (hx : IsItem x)
      (hafter : Blank after.toList) : Lists (before ++ x ++ after) [x]
  | comma {s t : String} {xs ys : List String} (hs : Lists s xs) (ht : Lists t ys) :
      Lists (s ++ "," ++ t) (xs ++ ys)

/-- The blanks may be others at each comma. -/
inductive Joins : List String → String → Prop
  | nil : Joins [] ""
  | single (x : String) : Joins [x] x
  | comma (x before after : String) {y s : String} {ys : List String}
      (hbefore : Blank before.toList) (hafter : Blank after.toList) (h : Joins (y :: ys) s) :
      Joins (x :: y :: ys) (x ++ before ++ "," ++ after ++ s)

variable {cs : List Char} {s before after : String} {xs : List String}

/-! ### Pieces -/

theorem pieces_eq (cs : List Char) : pieces cs = cs.splitOn ',' := by
  induction cs with
  | nil => rfl
  | cons c cs ih =>
    rw [pieces, ih, List.splitOn_cons_eq_if_modifyHead]
    by_cases hc : c = ','
    · simp [hc]
    · cases hps : cs.splitOn ',' with
      | nil => exact absurd hps (List.splitOn_ne_nil ',' cs)
      | cons p ps => simp [hc]

theorem comma_notMem_of_blank (h : Blank cs) : ',' ∉ cs := by
  intro hmem
  have hcomma := h ',' hmem
  revert hcomma
  decide

theorem items_append_comma (s t : String) : items (s ++ "," ++ t) = items s ++ items t := by
  have hcomma : (s ++ "," ++ t).toList = s.toList ++ ',' :: t.toList := by simp
  simp only [items, itemChars, pieces_eq, hcomma, List.splitOn_append_cons_self, List.map_append,
    List.filter_append]

theorem items_of_comma_notMem (h : ',' ∉ s.toList) :
    items s = if Blank s.toList then [] else [trimmed s] := by
  have hpieces : pieces s.toList = [s.toList] := by rw [pieces_eq, List.splitOn_eq_singleton h]
  simp only [items, itemChars, hpieces, List.map_cons, List.map_nil]
  split_ifs with hblank
  · simp [trim_eq_nil_iff.2 hblank]
  · have hne : trim s.toList ≠ [] := fun hnil => hblank (trim_eq_nil_iff.1 hnil)
    simp [hne, trimmed]

/-! ### What a text lists -/

theorem isItem_trimmed (hcomma : ',' ∉ s.toList) (hblank : ¬Blank s.toList) :
    IsItem (trimmed s) := by
  obtain ⟨before, after, hs, -, -⟩ := exists_trimmed s
  refine ⟨?_, ?_, ?_⟩
  · intro hempty
    refine hblank (trim_eq_nil_iff.1 ?_)
    simpa [trimmed] using hempty
  · intro hmem
    refine hcomma ?_
    rw [hs]
    simp [hmem]
  · rw [trimmed, String.toList_ofList]
    exact (trims_trim s.toList).unpadded

namespace Lists

theorem items_eq (h : Lists s xs) : items s = xs := by
  induction h with
  | blank hs => rw [items_of_comma_notMem (comma_notMem_of_blank hs), if_pos hs]
  | @item before x after hbefore hx hafter =>
    have htrims : Trims (before ++ x ++ after).toList x.toList :=
      ⟨⟨before.toList, after.toList, by simp, hbefore, hafter⟩, hx.unpadded⟩
    have htrim := htrims.trim_eq
    have hcomma : ',' ∉ (before ++ x ++ after).toList := by
      simp [comma_notMem_of_blank hbefore, comma_notMem_of_blank hafter, hx.comma_notMem]
    have hblank : ¬Blank (before ++ x ++ after).toList := by
      rw [← trim_eq_nil_iff, htrim]
      simpa using hx.ne_empty
    rw [items_of_comma_notMem hcomma, if_neg hblank, trimmed, htrim, String.ofList_toList]
  | comma _ _ ihs iht => rw [items_append_comma, ihs, iht]

theorem isItem (h : Lists s xs) : ∀ x ∈ xs, IsItem x := by
  induction h with
  | blank _ => exact fun x hx => absurd hx List.not_mem_nil
  | item _ hx _ => exact List.forall_mem_singleton.2 hx
  | comma _ _ ihs iht => exact List.forall_mem_append.2 ⟨ihs, iht⟩

theorem blank_append (h : Lists s xs) (hbefore : Blank before.toList) : Lists (before ++ s) xs := by
  have hblank : ∀ {t : String}, Blank t.toList → Blank (before ++ t).toList := by
    intro t ht
    rw [String.toList_append]
    exact List.forall_mem_append.2 ⟨hbefore, ht⟩
  induction h with
  | blank hs => exact .blank (hblank hs)
  | item hb hx hafter =>
    rw [← String.append_assoc, ← String.append_assoc]
    exact .item (hblank hb) hx hafter
  | comma _ ht ihs _ =>
    rw [← String.append_assoc, ← String.append_assoc]
    exact .comma ihs ht

end Lists

theorem lists_of_comma_notMem (hcomma : ',' ∉ s.toList) : Lists s (items s) := by
  rw [items_of_comma_notMem hcomma]
  split_ifs with hblank
  · exact .blank hblank
  · obtain ⟨before, after, hs, hbefore, hafter⟩ := exists_trimmed s
    have hitem := Lists.item hbefore (isItem_trimmed hcomma hblank) hafter
    rwa [← hs] at hitem

theorem lists_items (s : String) : Lists s (items s) := by
  obtain ⟨n, hn⟩ : ∃ n, s.length = n := ⟨_, rfl⟩
  -- what stands before a comma is shorter than the text, and so is what stands behind it
  induction n using Nat.strongRecOn generalizing s with
  | ind n ih =>
    by_cases hcomma : ',' ∈ s.toList
    · obtain ⟨left, right, hs⟩ := List.append_of_mem hcomma
      have hsplit : s = String.ofList left ++ "," ++ String.ofList right := by
        rw [← String.toList_inj]
        simpa using hs
      have hlength : left.length + 1 + right.length = n := by
        rw [← hn, ← String.length_toList, hs, List.length_append, List.length_cons]
        omega
      rw [hsplit, items_append_comma]
      refine .comma (ih left.length (by omega) _ ?_) (ih right.length (by omega) _ ?_)
      · exact String.length_ofList
      · exact String.length_ofList
    · exact lists_of_comma_notMem hcomma

theorem lists_iff : Lists s xs ↔ items s = xs := by
  constructor
  · exact Lists.items_eq
  · rintro rfl
    exact lists_items s

/-! ### Items in a row -/

theorem Joins.lists (h : Joins xs s) (hxs : ∀ x ∈ xs, IsItem x) : Lists s xs := by
  induction h with
  | nil => exact .blank blank_nil
  | single x =>
    have hx := hxs x (List.mem_singleton_self x)
    have hitem : Lists ("" ++ x ++ "") [x] := .item blank_nil hx blank_nil
    rwa [String.empty_append, String.append_empty] at hitem
  | @comma x before after y s ys hbefore hafter _ ih =>
    obtain ⟨hx, hys⟩ := List.forall_mem_cons.1 hxs
    have hleft : Lists ("" ++ x ++ before) [x] := .item blank_nil hx hbefore
    have hright : Lists (after ++ s) (y :: ys) := (ih hys).blank_append hafter
    have hboth := Lists.comma hleft hright
    rwa [String.empty_append, ← String.append_assoc] at hboth

theorem joins_intercalate (hbefore : Blank before.toList) (hafter : Blank after.toList) :
    ∀ xs : List String, Joins xs ((before ++ "," ++ after).intercalate xs)
  | [] => by
    rw [String.intercalate_nil]
    exact .nil
  | [x] => by
    rw [String.intercalate_singleton]
    exact .single x
  | x :: y :: ys => by
    have hrest := joins_intercalate hbefore hafter (y :: ys)
    have hjoins := Joins.comma x before after hbefore hafter hrest
    rw [String.intercalate_cons_cons]
    simpa only [String.append_assoc] using hjoins

/-- **Items are a normal form of comma lists.** They are what the text lists; none of them is empty,
padded or holds a comma; written in a row, with any blanks around the commas, they are read back; and
a comma between two texts puts their items in a row. -/
theorem items_are_normal_form (s : String) :
    (∀ xs, Lists s xs ↔ items s = xs) ∧
    (∀ x ∈ items s, IsItem x) ∧
    (∀ t, Joins (items s) t → items t = items s) ∧
    (∀ before after : String, Blank before.toList → Blank after.toList →
      items ((before ++ "," ++ after).intercalate (items s)) = items s) ∧
    ∀ t, items (s ++ "," ++ t) = items s ++ items t := by
  have hitems := (lists_items s).isItem
  have hjoins : ∀ t, Joins (items s) t → items t = items s := by
    intro t ht
    exact (ht.lists hitems).items_eq
  refine ⟨fun xs => lists_iff, hitems, hjoins, ?_, items_append_comma s⟩
  intro before after hbefore hafter
  exact hjoins _ (joins_intercalate hbefore hafter _)

/-- Other blanks at each comma, and the same ones. -/
theorem normal_form_of_padded_list :
    Joins (items " a,, b c ,\u3000,d\n") "a ,\tb c\u2003,\u00a0d" ∧
      items "a ,\tb c\u2003,\u00a0d" = ["a", "b c", "d"] ∧
      items "a\u3000,\nb c\u3000,\nd" = ["a", "b c", "d"] := by
  have hitems : items " a,, b c ,\u3000,d\n" = ["a", "b c", "d"] := by decide
  have hjoins : Joins (items " a,, b c ,\u3000,d\n") "a ,\tb c\u2003,\u00a0d" := by
    rw [hitems]
    exact .comma "a" " " "\t" (by decide) (by decide)
      (.comma "b c" "\u2003" "\u00a0" (by decide) (by decide) (.single "d"))
  obtain ⟨-, -, hother, hsame, -⟩ := items_are_normal_form " a,, b c ,\u3000,d\n"
  have hgap := hsame "\u3000" "\n" (by decide) (by decide)
  rw [hitems] at hgap
  exact ⟨hjoins, (hother _ hjoins).trans hitems, hgap⟩

end Scaffold.Text.CommaList
