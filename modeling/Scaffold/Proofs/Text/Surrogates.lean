import Scaffold.Text.Surrogate

/-!
# Texts with surrogates

Parts are told from the characters that are kept for them (`parts_ofParts`): the mark before a private
character is read as a surrogate, and the mark before another mark as that character itself, so that
no two lists of parts are kept alike.
-/

namespace Scaffold.Text

theorem Part.text?_ofText (s : String) : Part.text? (Part.ofText s) = some s := by
  have hchars (cs : List Char) : (cs.map Part.char).mapM Part.char? = some cs := by
    induction cs with
    | nil => rfl
    | cons c cs ih => simp [Part.char?, ih]
  rw [Part.text?, Part.ofText, hchars, Option.map_some, String.ofList_toList]

namespace Stored

theorem toNat_privateChar (k : Fin 0x800) : (privateChar k).toNat = 0x100000 + k.val := by
  have hvalid : (0x100000 + k.val).isValidChar := .inr ⟨by omega, by omega⟩
  rw [privateChar, Char.ofNat, dif_pos hvalid]
  rfl

theorem surrogate?_privateChar (k : Fin 0x800) : surrogate? (privateChar k) = some k := by
  have hrange : 0x100000 ≤ (privateChar k).toNat ∧ (privateChar k).toNat < 0x100800 := by
    rw [toNat_privateChar]
    omega
  rw [surrogate?, dif_pos hrange, Option.some_inj]
  ext
  show (privateChar k).toNat - 0x100000 = k.val
  rw [toNat_privateChar, Nat.add_sub_cancel_left]

theorem surrogate?_mark : surrogate? mark = none := by decide

theorem partsOf_keep (p : Part) (cs : List Char) : partsOf (keep p ++ cs) = p :: partsOf cs := by
  cases p with
  | surrogate k =>
    show partsOf (mark :: privateChar k :: cs) = _
    rw [partsOf, if_pos rfl, surrogate?_privateChar]
    rfl
  | char c =>
    by_cases hc : c = mark
    · rw [keep, if_pos hc, hc]
      show partsOf (mark :: mark :: cs) = _
      rw [partsOf, if_pos rfl, surrogate?_mark]
      rfl
    · rw [keep, if_neg hc, List.singleton_append]
      cases cs with
      | nil => rfl
      | cons d cs => rw [partsOf, if_neg hc]

/-- What is kept of some parts says which they are. -/
theorem parts_ofParts (ps : List Part) : (ofParts ps).parts = ps := by
  show partsOf (ps.flatMap keep) = ps
  induction ps with
  | nil => rfl
  | cons p ps ih => rw [List.flatMap_cons, partsOf_keep, ih]

theorem ofParts_inj {ps qs : List Part} : ofParts ps = ofParts qs ↔ ps = qs :=
  ⟨fun h => (parts_ofParts ps).symm.trans (h ▸ parts_ofParts qs), congrArg ofParts⟩

theorem text?_ofText (s : String) : (ofText s).text? = some s := by
  rw [text?, ofText, ofChars, parts_ofParts]
  exact Part.text?_ofText s

end Stored

end Scaffold.Text
