import Scaffold.Proofs.Stack.Grammar

/-!
# Literals of the stack syntax

The reader of literals finds the closing quote and undoes the escapes as `Enclosed` and `unescape`
say (`enclosed_of_body`, `body_of_enclosed`). Escaping goes the other way: escaped characters are
enclosed unless they end in a backslash, and stand for what was escaped.
-/

namespace Scaffold.Stack

namespace Literal

variable {q c d : Char} {cs raw text rest : List Char}

theorem Enclosed.nil : Enclosed q [] := ⟨by simp, by simp⟩

theorem Enclosed.cons (hc : c ≠ q) (hesc : c = '\\' → ∃ d ds, raw = d :: ds ∧ d ≠ q)
    (h : Enclosed q raw) : Enclosed q (c :: raw) := by
  refine ⟨fun before after hraw => ?_, fun hlast => ?_⟩
  · cases before with
    | nil => exact absurd (List.cons.inj hraw).1 hc
    | cons b before =>
      have hb := h.inner before after (List.cons.inj hraw).2
      rw [List.getLast?_cons, hb, Option.getD_some]
  · cases raw with
    | nil =>
      simp only [List.getLast?_singleton, Option.some.injEq] at hlast
      obtain ⟨d, ds, hd, -⟩ := hesc hlast
      exact absurd hd (by simp)
    | cons d ds => exact h.closing (by rwa [List.getLast?_cons_cons] at hlast)

theorem Enclosed.escaped (hq : q ≠ '\\') (h : Enclosed q raw) : Enclosed q ('\\' :: q :: raw) := by
  refine ⟨fun before after hraw => ?_, fun hlast => ?_⟩
  · match before with
    | [] => exact absurd (List.cons.inj hraw).1 hq.symm
    | [b] => rw [(List.cons.inj hraw).1]; rfl
    | b :: b' :: before =>
      have hb := h.inner before after (List.cons.inj (List.cons.inj hraw).2).2
      rw [List.getLast?_cons_cons, List.getLast?_cons, hb, Option.getD_some]
  · rw [List.getLast?_cons_cons] at hlast
    cases raw with
    | nil => exact hq (by simpa using hlast)
    | cons d ds => exact h.closing (by rwa [List.getLast?_cons_cons] at hlast)

theorem Enclosed.head_ne (h : Enclosed q (c :: raw)) : c ≠ q := by
  rintro rfl
  have := h.inner [] raw rfl
  simp at this

theorem Enclosed.of_escaped (hq : q ≠ '\\') (h : Enclosed q (c :: q :: raw)) : Enclosed q raw := by
  refine ⟨fun before after hraw => ?_, fun hlast => h.closing ?_⟩
  · have hb := h.inner (c :: q :: before) after (by rw [hraw]; rfl)
    cases before with
    | nil => exact absurd (by simpa using hb) hq
    | cons b before => rwa [List.getLast?_cons_cons, List.getLast?_cons_cons] at hb
  · cases raw with
    | nil => simp at hlast
    | cons d ds => rwa [List.getLast?_cons_cons, List.getLast?_cons_cons]

theorem Enclosed.tail (hesc : ¬ (c = '\\' ∧ d = q)) (h : Enclosed q (c :: d :: raw)) :
    Enclosed q (d :: raw) := by
  refine ⟨fun before after hraw => ?_, fun hlast => h.closing (by rwa [List.getLast?_cons_cons])⟩
  have hb := h.inner (c :: before) after (by rw [hraw]; rfl)
  cases before with
  | nil => exact absurd ⟨by simpa using hb, (List.cons.inj hraw).1⟩ hesc
  | cons b before => rwa [List.getLast?_cons_cons] at hb

/-- The reader of literals stops at the closing quote and undoes the escapes before it. -/
theorem enclosed_of_body (hq : q ≠ '\\') (h : body q cs = some (text, rest)) :
    ∃ raw, cs = raw ++ q :: rest ∧ Enclosed q raw ∧ text = unescape q raw := by
  -- the last two cases: an escaped character, and any other one that does not close the literal
  fun_induction body q cs generalizing text with
  | case1 => simp at h
  | case2 =>
    simp only [Option.some.injEq, Prod.mk.injEq] at h
    exact ⟨[], by simp [h.2], .nil, h.1.symm⟩
  | case3 => simp at h
  | case4 d cs =>
    simp only [Option.some.injEq, Prod.mk.injEq] at h
    exact ⟨[], by simp [h.2], .nil, h.1.symm⟩
  | case5 c d cs hc hesc ih =>
    simp only [Option.map_eq_some_iff, Prod.mk.injEq, Prod.exists] at h
    obtain ⟨t, r, hb, rfl, rfl⟩ := h
    obtain ⟨raw, rfl, hraw, rfl⟩ := ih hb
    obtain ⟨rfl, rfl⟩ := hesc
    exact ⟨'\\' :: d :: raw, rfl, hraw.escaped hq, by simp [unescape]⟩
  | case6 c d cs hc hesc ih =>
    simp only [Option.map_eq_some_iff, Prod.mk.injEq, Prod.exists] at h
    obtain ⟨t, r, hb, rfl, rfl⟩ := h
    obtain ⟨raw, hcs, hraw, rfl⟩ := ih hb
    refine ⟨c :: raw, by rw [hcs]; rfl, hraw.cons hc fun hbs => ?_, ?_⟩
    · cases raw with
      | nil => exact absurd ⟨hbs, (List.cons.inj hcs).1⟩ hesc
      | cons e raw => exact ⟨e, raw, rfl, hraw.head_ne⟩
    · cases raw with
      | nil => rfl
      | cons e raw => rw [unescape, if_neg (fun he => hesc ⟨he.1, by
          rw [(List.cons.inj hcs).1]; exact he.2⟩)]

theorem body_of_enclosed (hq : q ≠ '\\') (h : Enclosed q raw) (rest : List Char) :
    body q (raw ++ q :: rest) = some (unescape q raw, rest) := by
  have hquote : ∀ rest, body q (q :: rest) = some ([], rest) := fun rest => by
    cases rest <;> simp [body]
  fun_induction unescape q raw with
  | case1 => exact hquote rest
  | case2 c =>
    have hc : c ≠ '\\' := fun hc => h.closing (by simp [hc])
    simp [body, h.head_ne, hc, hquote]
  | case3 c d raw hesc ih =>
    obtain ⟨rfl, rfl⟩ := hesc
    simp [body, h.head_ne, ih (h.of_escaped hq)]
  | case4 c d raw hesc ih =>
    have hb := ih (h.tail hesc)
    rw [List.cons_append] at hb
    simp [body, h.head_ne, hesc, hb]

/-! ### Escapes -/

theorem escape_cons (q c : Char) (cs : List Char) :
    escape q (c :: cs) = (if c = q then ['\\', q] else [c]) ++ escape q cs := rfl

theorem head?_escape (hq : q ≠ '\\') : (escape q cs).head? ≠ some q := by
  cases cs with
  | nil => simp [escape]
  | cons c cs =>
    rw [escape_cons]
    split_ifs with hc
    · simpa using hq.symm
    · simpa using hc

theorem unescape_cons {c : Char} (h : c = '\\' → raw.head? ≠ some q) :
    unescape q (c :: raw) = c :: unescape q raw := by
  cases raw with
  | nil => rfl
  | cons d raw => rw [unescape, if_neg fun hcd => h hcd.1 (by rw [hcd.2]; rfl)]

theorem unescape_escape (hq : q ≠ '\\') (cs : List Char) : unescape q (escape q cs) = cs := by
  induction cs with
  | nil => rfl
  | cons c cs ih =>
    rw [escape_cons]
    split_ifs with hc
    · show unescape q ('\\' :: q :: escape q cs) = c :: cs
      rw [unescape, if_pos ⟨rfl, rfl⟩, ih, hc]
    · show unescape q (c :: escape q cs) = c :: cs
      rw [unescape_cons fun _ => head?_escape hq, ih]

/-- The quote after escaped characters closes them, unless they end in a backslash. -/
theorem enclosed_escape (hq : q ≠ '\\') (h : cs.getLast? ≠ some '\\') :
    Enclosed q (escape q cs) := by
  induction cs with
  | nil => exact .nil
  | cons c cs ih =>
    have hcs : cs ≠ [] → Enclosed q (escape q cs) := fun hne =>
      ih fun hl => h (by rw [List.getLast?_cons_of_ne_nil hne, hl])
    rw [escape_cons]
    split_ifs with hc
    · refine Enclosed.escaped hq ?_
      cases cs with
      | nil => exact .nil
      | cons d cs => exact hcs (by simp)
    · show Enclosed q (c :: escape q cs)
      cases cs with
      | nil => exact .cons hc (fun hbs => absurd (by rw [hbs]; rfl) h) .nil
      | cons d cs =>
        refine .cons hc (fun _ => ?_) (hcs (by simp))
        cases hraw : escape q (d :: cs) with
        | nil => rw [escape_cons] at hraw; split_ifs at hraw <;> simp at hraw
        | cons e raw => exact ⟨e, raw, rfl, fun he => head?_escape hq (by rw [hraw, he]; rfl)⟩

/-- What stands between quotes does not end in a backslash, nor does what it stands for. -/
theorem Enclosed.getLast?_unescape (hq : q ≠ '\\') (h : Enclosed q raw) :
    (unescape q raw).getLast? ≠ some '\\' := by
  fun_induction unescape q raw with
  | case1 => simp
  | case2 c => exact h.closing
  | case3 c d raw hesc ih =>
    obtain ⟨rfl, rfl⟩ := hesc
    have := ih (h.of_escaped hq)
    rw [List.getLast?_cons]
    cases hl : (unescape d raw).getLast? with
    | none => simpa using hq
    | some e => rwa [hl] at this
  | case4 c d raw hesc ih =>
    have hne : unescape q (d :: raw) ≠ [] := by
      cases raw with
      | nil => simp [unescape]
      | cons e raw => rw [unescape]; split_ifs <;> simp
    rw [List.getLast?_cons_of_ne_nil hne]
    exact ih (h.tail hesc)

end Literal

end Scaffold.Stack
