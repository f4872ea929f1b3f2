import Scaffold.Proofs.Name
import Scaffold.Proofs.Stack.Literal

/-!
# The scanner cuts a text as the grammar spells it

`Scan.spelled`: a text that is scanned to its end is spelled by its lexemes. `Spelled.scan` is the
converse: the scanner finds the lexemes of a spelled text again, as long as no operand follows
another one directly. That is no loss, since rows that derive a tree have no such place
(`Derives.framed`).
-/

namespace Scaffold.Stack

/-! ### Lexemes -/

section Lexeme

variable {i : Nat} {c : Char} {sign : Sign} {l : Lexeme} {w cs rest : List Char}

theorem quote_ne_backslash (hq : c = '\'' ∨ c = '"') : c ≠ '\\' := by
  rcases hq with rfl | rfl <;> decide

theorem not_isChar_of_endsName (h : endsName c = true) : Name.isChar c = false := by
  rw [Bool.eq_false_iff]
  intro hc
  have := Name.toNat_of_isChar hc
  simp only [endsName, isSignChar, Bool.or_eq_true, beq_iff_eq] at h
  rcases h with ((h | rfl) | rfl) | ((((rfl | rfl) | rfl) | rfl) | rfl)
  · simp [Text.isBlank, Text.blankRanges] at h
    omega
  all_goals revert hc; decide

theorem spells_of_second {d : Char} (hs : Spells (.sign sign) [d, c])
    (h : second i c sign cs = .ok (l, rest)) : Spells l [d, c] ∧ cs = c :: rest ∧ l ≠ .bang := by
  cases cs with
  | nil => simp [second] at h
  | cons e cs =>
    simp only [second] at h
    split at h
    · next he =>
      simp only [Except.ok.injEq, Prod.mk.injEq] at h
      obtain ⟨rfl, rfl⟩ := h
      exact ⟨hs, by rw [he], by simp⟩
    · simp at h

theorem spells_of_afterDollar (h : afterDollar i cs = .ok (l, rest)) :
    ∃ name, Name.IsName name ∧ l = .reference name ∧ cs = name.toList ++ rest := by
  simp only [afterDollar] at h
  split at h
  · simp at h
  · split at h
    · simp at h
    · next hne =>
      simp only [Except.ok.injEq, Prod.mk.injEq] at h
      obtain ⟨rfl, rfl⟩ := h
      refine ⟨_, Name.isName_takeWhile (by simpa using hne), rfl, ?_⟩
      rw [String.toList_ofList, List.takeWhile_append_dropWhile]

theorem afterDollar_of_isName {name : String} (hname : Name.IsName name)
    (hcs : ∀ c ∈ cs.head?, endsName c = true) :
    afterDollar i (name.toList ++ cs) = .ok (.reference name, cs) := by
  have hrest : cs.takeWhile Name.isChar = [] ∧ cs.dropWhile Name.isChar = cs := by
    cases cs with
    | nil => exact ⟨rfl, rfl⟩
    | cons c cs =>
      have hc := not_isChar_of_endsName (hcs c rfl)
      simp [hc]
  have hhead : cs.head?.filter (!endsName ·) = none := by
    cases cs with
    | nil => rfl
    | cons c cs => simp [hcs c rfl]
  simp only [afterDollar, List.takeWhile_append_of_pos hname.2,
    List.dropWhile_append_of_pos hname.2, hrest.1, hrest.2, hhead, List.append_nil,
    List.isEmpty_iff, hname.1, if_false, String.ofList_toList]

theorem spells_of_afterBang (h : afterBang i cs = .ok (l, rest)) :
    ∃ w, Spells l w ∧ '!' :: cs = w ++ rest ∧ (l = .bang → rest.head? = some '(') := by
  cases cs with
  | nil => simp [afterBang] at h
  | cons d cs =>
    simp only [afterBang] at h
    split_ifs at h with hd
    · simp only [Except.ok.injEq, Prod.mk.injEq] at h
      obtain ⟨rfl, rfl⟩ := h
      exact ⟨_, .bang, rfl, fun _ => by rw [hd]; rfl⟩
    · obtain ⟨hs, hcs, hl⟩ := spells_of_second .notEqual h
      exact ⟨_, hs, by rw [hcs]; rfl, fun hb => absurd hb hl⟩

theorem spells_of_afterQuote (hq : c = '\'' ∨ c = '"') (h : afterQuote i c cs = .ok (l, rest)) :
    ∃ w, Spells l w ∧ c :: cs = w ++ rest ∧ (l = .bang → rest.head? = some '(') := by
  unfold afterQuote at h
  split at h
  · simp at h
  · next text r hb =>
    simp only [Except.ok.injEq, Prod.mk.injEq] at h
    obtain ⟨rfl, rfl⟩ := h
    obtain ⟨raw, rfl, hraw, rfl⟩ := Literal.enclosed_of_body (quote_ne_backslash hq) hb
    exact ⟨_, .literal hq hraw, by simp, by simp⟩

/-- A lexeme is cut off with the characters that spell it. -/
theorem spells_of_lexeme (h : lexeme i c cs = .ok (l, rest)) :
    ∃ w, Spells l w ∧ c :: cs = w ++ rest ∧ (l = .bang → rest.head? = some '(') := by
  unfold lexeme at h
  split_ifs at h with h₁ h₂ h₃ h₄ h₅ h₆ h₇ h₈ h₉
  · simp only [Except.ok.injEq, Prod.mk.injEq] at h
    obtain ⟨rfl, rfl⟩ := h
    exact ⟨_, .opening, by rw [h₁]; rfl, by simp⟩
  · simp only [Except.ok.injEq, Prod.mk.injEq] at h
    obtain ⟨rfl, rfl⟩ := h
    exact ⟨_, .closing, by rw [h₂]; rfl, by simp⟩
  · subst h₃
    exact spells_of_afterBang h
  · obtain ⟨hs, rfl, hl⟩ := spells_of_second .equal h
    exact ⟨_, hs, by rw [h₄]; rfl, fun hb => absurd hb hl⟩
  · obtain ⟨hs, rfl, hl⟩ := spells_of_second .and h
    exact ⟨_, hs, by rw [h₅]; rfl, fun hb => absurd hb hl⟩
  · obtain ⟨hs, rfl, hl⟩ := spells_of_second .or h
    exact ⟨_, hs, by rw [h₆]; rfl, fun hb => absurd hb hl⟩
  · simp only [Except.ok.injEq, Prod.mk.injEq] at h
    obtain ⟨rfl, rfl⟩ := h
    exact ⟨_, .xor, by rw [h₇]; rfl, by simp⟩
  · obtain ⟨name, hname, rfl, rfl⟩ := spells_of_afterDollar h
    exact ⟨_, .reference hname, by rw [h₈]; rfl, by simp⟩
  · exact spells_of_afterQuote h₉ h

/-- `lexeme` finds `l` at its spelling, if what follows does not run into it. -/
theorem lexeme_of_spells (hw : Spells l w) (hbang : l = .bang → cs.head? = some '(')
    (hends : l.ends = true → ∀ c ∈ cs.head?, endsName c = true) :
    ∃ c w', w = c :: w' ∧ Text.isBlank c = false ∧ ∀ i, lexeme i c (w' ++ cs) = .ok (l, cs) := by
  cases hw with
  | opening | closing | xor => exact ⟨_, _, rfl, by decide, fun i => rfl⟩
  | equal | notEqual | and | or =>
    exact ⟨_, _, rfl, by decide, fun i => by simp [lexeme, afterBang, second]⟩
  | bang =>
    obtain ⟨c, cs, rfl⟩ : ∃ c cs', cs = c :: cs' := by
      cases cs with
      | nil => simp at hbang
      | cons c cs => exact ⟨c, cs, rfl⟩
    simp only [List.head?_cons, Option.some.injEq, forall_const] at hbang
    exact ⟨_, _, rfl, by decide, fun i => by simp [lexeme, afterBang, hbang]⟩
  | @reference name hname =>
    exact ⟨_, _, rfl, by decide, fun i => afterDollar_of_isName hname (hends rfl)⟩
  | @literal q raw hq h =>
    refine ⟨q, raw ++ [q], rfl, ?_, fun i => ?_⟩
    · rcases hq with rfl | rfl <;> decide
    · have hb : afterQuote i q (raw ++ q :: cs) =
          .ok (.literal q (String.ofList (Literal.unescape q raw)), cs) := by
        rw [afterQuote, Literal.body_of_enclosed (quote_ne_backslash hq) h]
      rw [List.append_assoc, List.singleton_append]
      rcases hq with rfl | rfl <;> exact hb

end Lexeme

/-! ### Texts -/

/-- The lexemes of a scan. -/
def Scan.lexemes (s : Scan) : List Lexeme := s.tokens.map (·.lexeme)

section Scan

variable {i : Nat} {c : Char} {l : Lexeme} {ls : List Lexeme} {w cs rest : List Char}

theorem Scan.run_blank (hc : Text.isBlank c = true) :
    Scan.run i (c :: cs) = Scan.run (i + 1) cs := by
  rw [Scan.run, if_pos hc]

theorem Scan.run_lexeme (hc : Text.isBlank c = false) (hl : lexeme i c cs = .ok (l, rest)) :
    Scan.run i (c :: cs) =
      Scan.cons ⟨i, l⟩ (Scan.run (i + 1 + (cs.length - rest.length)) rest) := by
  rw [Scan.run, if_neg (by simp [hc])]
  split
  · next e he => rw [hl] at he; cases he
  · next l' r' he => rw [hl] at he; cases he; rfl

theorem Scan.spelled (h : (Scan.run i cs).fault = none) : Spelled (Scan.run i cs).lexemes cs := by
  fun_induction Scan.run i cs with
  | case1 => exact .nil
  | case2 i c cs hc ih => exact .blank hc (ih h)
  | case3 i c cs hc e he => simp at h
  | case4 i c cs hc l rest hl ih =>
    obtain ⟨w, hw, hcs, hbang⟩ := spells_of_lexeme hl
    rw [hcs]
    exact .lexeme hw hbang (ih h)

theorem Spelled.endsName_head (h : Spelled ls cs) (hls : ∀ l ∈ ls.head?, l.begins = false) :
    ∀ c ∈ cs.head?, endsName c = true := by
  cases h with
  | nil => simp
  | @blank c ls cs hc h =>
    rintro _ ⟨⟩
    simp [endsName, hc]
  | @lexeme l ls w cs hw _ h =>
    have hl := hls l rfl
    cases hw with
    | opening | bang | reference | literal => simp [Lexeme.begins] at hl
    | closing | equal | notEqual | and | or | xor => rintro _ ⟨⟩; decide

theorem Spelled.bang_chain (h : Spelled ls cs) :
    ls.IsChain fun a b => a = .bang → b = .opening := by
  induction h with
  | nil => exact .nil
  | blank _ _ ih => exact ih
  | @lexeme l ls w cs _ hbang h ih =>
    refine List.isChain_cons.2 ⟨fun b hb hl => ?_, ih⟩
    have hcs := hbang hl
    cases h with
    | nil => cases hb
    | @blank c _ _ hc _ => cases hcs; exact absurd hc (by decide)
    | lexeme hw _ _ => cases hw <;> cases hb <;> simp_all

theorem Spelled.scan (h : Spelled ls cs) (hls : ls.IsChain Lexeme.Fits) (i : Nat) :
    (Scan.run i cs).fault = none ∧ (Scan.run i cs).lexemes = ls := by
  induction h generalizing i with
  | nil => rw [Scan.run]; exact ⟨rfl, rfl⟩
  | blank hc _ ih => rw [Scan.run_blank hc]; exact ih hls _
  | @lexeme l ls w cs hw hbang h ih =>
    obtain ⟨hfit, hls⟩ := List.isChain_cons.1 hls
    have hends : l.ends = true → ∀ c ∈ cs.head?, endsName c = true := fun hl =>
      h.endsName_head fun l' hl' => hfit l' hl' hl
    obtain ⟨c, w', rfl, hc, hlex⟩ := lexeme_of_spells hw hbang hends
    rw [List.cons_append, Scan.run_lexeme hc (hlex i)]
    obtain ⟨hf, hl⟩ := ih hls (i + 1 + ((w' ++ cs).length - cs.length))
    exact ⟨hf, congrArg (l :: ·) hl⟩

end Scan

end Scaffold.Stack
