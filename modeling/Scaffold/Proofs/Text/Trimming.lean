import Mathlib.Data.List.TakeWhile
import Scaffold.Text.Blank

/-!
# Trimming

`Trims` says without `trim` what is left of some characters: they are the rest with blanks on both
sides, and the rest neither begins nor ends with a blank. There is one such rest, and `trim` finds it
(`trims_iff`).
-/

namespace Scaffold.Text

def Blank (cs : List Char) : Prop := ∀ c ∈ cs, isBlank c = true

/-- Neither the first nor the last character is a blank. -/
structure Unpadded (cs : List Char) : Prop where
  head : ∀ c, cs.head? = some c → isBlank c = false
  last : ∀ c, cs.getLast? = some c → isBlank c = false

/-- `core` is `cs` without the blanks at both ends. -/
structure Trims (cs core : List Char) : Prop where
  around : ∃ before after, cs = before ++ core ++ after ∧ Blank before ∧ Blank after
  unpadded : Unpadded core

-- not by search, which may try the characters one after another
instance (cs : List Char) : Decidable (Blank cs) := List.decidableBAll _ cs

variable {cs core before after : List Char}

/-! ### One end -/

theorem trimStart_blank_append (h : Blank before) : trimStart (before ++ cs) = trimStart cs :=
  List.dropWhile_append_of_pos h

theorem trimEnd_append_blank (h : Blank after) : trimEnd (cs ++ after) = trimEnd cs := by
  have hrev : ∀ c ∈ after.reverse, isBlank c = true := fun c hc => h c (List.mem_reverse.1 hc)
  rw [trimEnd, List.reverse_append, List.dropWhile_append_of_pos hrev]
  rfl

theorem trimStart_of_head (h : ∀ c, cs.head? = some c → isBlank c = false) : trimStart cs = cs := by
  cases cs with
  | nil => rfl
  | cons c cs =>
    have hc := h c rfl
    simp [trimStart, hc]

theorem trimEnd_of_last (h : ∀ c, cs.getLast? = some c → isBlank c = false) : trimEnd cs = cs := by
  have hrev : trimStart cs.reverse = cs.reverse :=
    trimStart_of_head fun c hc => h c (by rwa [List.head?_reverse] at hc)
  show (trimStart cs.reverse).reverse = cs
  rw [hrev, List.reverse_reverse]

theorem exists_trimStart (cs : List Char) :
    ∃ before, cs = before ++ trimStart cs ∧ Blank before ∧
      ∀ c, (trimStart cs).head? = some c → isBlank c = false := by
  refine ⟨cs.takeWhile isBlank, List.takeWhile_append_dropWhile.symm, fun c hc => ?_, ?_⟩
  · exact List.mem_takeWhile_imp hc
  · intro c hc
    have hnot := List.head?_dropWhile_not isBlank cs
    rw [show cs.dropWhile isBlank = trimStart cs from rfl, hc] at hnot
    exact hnot

theorem exists_trimEnd (cs : List Char) :
    ∃ after, cs = trimEnd cs ++ after ∧ Blank after ∧
      ∀ c, (trimEnd cs).getLast? = some c → isBlank c = false := by
  obtain ⟨before, hcs, hblank, hhead⟩ := exists_trimStart cs.reverse
  have hend : trimEnd cs = (trimStart cs.reverse).reverse := rfl
  refine ⟨before.reverse, ?_, fun c hc => hblank c (List.mem_reverse.1 hc), fun c hc => ?_⟩
  · rw [hend, ← List.reverse_append, ← hcs, List.reverse_reverse]
  · rw [hend, List.getLast?_reverse] at hc
    exact hhead c hc

/-! ### Both ends -/

theorem trims_trim (cs : List Char) : Trims cs (trim cs) := by
  obtain ⟨before, hcs, hbefore, hhead⟩ := exists_trimStart cs
  obtain ⟨after, hstart, hafter, hlast⟩ := exists_trimEnd (trimStart cs)
  refine ⟨⟨before, after, ?_, hbefore, hafter⟩, ?_, hlast⟩
  · rw [List.append_assoc, trim, ← hstart, ← hcs]
  · -- the beginning is still there, unless nothing is left
    intro c hc
    refine hhead c ?_
    rw [hstart, List.head?_append, show trimEnd (trimStart cs) = trim cs from rfl, hc]
    rfl

theorem exists_trimmed (s : String) :
    ∃ before after : String, s = before ++ trimmed s ++ after ∧ Blank before.toList ∧
      Blank after.toList := by
  obtain ⟨⟨before, after, hs, hbefore, hafter⟩, -⟩ := trims_trim s.toList
  refine ⟨String.ofList before, String.ofList after, ?_, ?_, ?_⟩
  · rw [← String.toList_inj]
    simpa [trimmed] using hs
  · rwa [String.toList_ofList]
  · rwa [String.toList_ofList]

theorem Trims.trim_eq (h : Trims cs core) : trim cs = core := by
  obtain ⟨⟨before, after, rfl, hbefore, hafter⟩, hcore⟩ := h
  cases hc : core with
  | nil =>
    have hnil : trimStart after = [] := List.dropWhile_eq_nil_iff.2 hafter
    rw [List.append_nil, trim, trimStart_blank_append hbefore, hnil]
    rfl
  | cons c cs =>
    rw [← hc, List.append_assoc, trim, trimStart_blank_append hbefore]
    have hhead : trimStart (core ++ after) = core ++ after := by
      refine trimStart_of_head fun d hd => hcore.head d ?_
      rw [hc] at hd ⊢
      exact hd
    rw [hhead, trimEnd_append_blank hafter, trimEnd_of_last hcore.last]

theorem trims_iff : Trims cs core ↔ trim cs = core := by
  constructor
  · exact Trims.trim_eq
  · rintro rfl
    exact trims_trim cs

theorem Trims.pad (h : Trims cs core) (hbefore : Blank before) (hafter : Blank after) :
    Trims (before ++ cs ++ after) core := by
  obtain ⟨⟨before', after', rfl, hbefore', hafter'⟩, hcore⟩ := h
  refine ⟨⟨before ++ before', after' ++ after, by simp, ?_, ?_⟩, hcore⟩
  · exact List.forall_mem_append.2 ⟨hbefore, hbefore'⟩
  · exact List.forall_mem_append.2 ⟨hafter', hafter⟩

theorem blank_nil : Blank [] := by
  intro c hc
  cases hc

theorem trim_append_blank (h : Blank after) : trim (cs ++ after) = trim cs :=
  ((trims_trim cs).pad blank_nil h).trim_eq

theorem trim_blank_append (h : Blank before) : trim (before ++ cs) = trim cs := by
  have hpad := (trims_trim cs).pad h blank_nil
  rw [List.append_nil] at hpad
  exact hpad.trim_eq

theorem trim_eq_nil_iff : trim cs = [] ↔ Blank cs := by
  constructor
  · intro h
    obtain ⟨⟨before, after, hcs, hbefore, hafter⟩, -⟩ := trims_trim cs
    rw [h, List.append_nil] at hcs
    rw [hcs]
    exact List.forall_mem_append.2 ⟨hbefore, hafter⟩
  · intro h
    have hnil : trim ([] ++ cs) = trim [] := trim_append_blank h
    rw [List.nil_append] at hnil
    exact hnil

end Scaffold.Text
