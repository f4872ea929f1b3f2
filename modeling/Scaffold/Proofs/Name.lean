import Scaffold.Expr.Name

/-!
# Characters of names
-/

namespace Scaffold.Name

variable {c : Char} {s : String}

theorem toNat_of_isChar (h : isChar c = true) :
    c.toNat = 45 ∨ c.toNat = 46 ∨ c.toNat = 95 ∨ (48 ≤ c.toNat ∧ c.toNat ≤ 57) ∨
      (97 ≤ c.toNat ∧ c.toNat ≤ 122) ∨ (65 ≤ c.toNat ∧ c.toNat ≤ 90) := by
  simp only [isChar, Bool.or_eq_true, beq_iff_eq, Bool.and_eq_true, decide_eq_true_eq,
    Char.le_def, UInt32.le_iff_toNat_le] at h
  rcases h with ((((rfl | rfl) | rfl) | h) | h) | h
  · exact .inl rfl
  · exact .inr (.inl rfl)
  · exact .inr (.inr (.inl rfl))
  · exact .inr (.inr (.inr (.inl h)))
  · exact .inr (.inr (.inr (.inr (.inl h))))
  · exact .inr (.inr (.inr (.inr (.inr h))))

theorem isName_takeWhile {cs : List Char} (h : cs.takeWhile isChar ≠ []) :
    IsName (String.ofList (cs.takeWhile isChar)) := by
  rw [IsName, String.toList_ofList]
  exact ⟨h, List.all_eq_true.1 List.all_takeWhile⟩

theorem isWritable_of_isName (h : IsName s) : isWritable s = true := by
  have hlast : s.toList.getLast? ≠ some '\n' := fun hl => by
    have := h.2 '\n' (List.mem_of_getLast? hl)
    exact absurd this (by decide)
  simp only [isWritable, if_neg hlast, Bool.and_eq_true, Bool.not_eq_true', List.all_eq_true]
  exact ⟨by simpa using h.1, h.2⟩

theorem isName_of_isWritable (h : isWritable s = true) (hlast : s.toList.getLast? ≠ some '\n') :
    IsName s := by
  simp only [isWritable, if_neg hlast, Bool.and_eq_true, Bool.not_eq_true', List.all_eq_true] at h
  exact ⟨by simpa using h.1, h.2⟩

end Scaffold.Name
