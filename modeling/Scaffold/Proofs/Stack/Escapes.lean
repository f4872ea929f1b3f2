import Scaffold.Proofs.Expr.Nodes
import Scaffold.Proofs.Stack.Moves

/-!
# What a literal can say

A backslash counts only right before the quote that the literal began with, and nothing escapes the
backslash itself. So a text that ends in a backslash has no literal: its closing quote would be read
as a part of it. Every other text has one, with either quote (`literals_say_all_but_final_backslash`).
-/

namespace Scaffold.Stack

variable {q : Char} {s : String} {i : Nat} {cs rest : List Char} {t : Token} {e n : Expr}

theorem lexeme_quote (hq : q = '\'' ∨ q = '"') : lexeme i q cs = afterQuote i q cs := by
  rcases hq with rfl | rfl <;> rfl

theorem lexeme_escape (hq : q = '\'' ∨ q = '"') (h : s.toList.getLast? ≠ some '\\') (i : Nat)
    (rest : List Char) :
    lexeme i q (Literal.escape q s.toList ++ q :: rest) = .ok (.literal q s, rest) := by
  have hne := quote_ne_backslash hq
  have hbody := Literal.body_of_enclosed hne (Literal.enclosed_escape hne h) rest
  rw [Literal.unescape_escape hne] at hbody
  simp only [lexeme_quote hq, afterQuote, hbody, String.ofList_toList]

theorem wellFormed_of_lexeme {c : Char} {l : Lexeme} (h : lexeme i c cs = .ok (l, rest)) :
    l.WellFormed := by
  obtain ⟨w, hw, -⟩ := spells_of_lexeme h
  exact hw.wellFormed

theorem wellFormed_of_scanned (ht : t ∈ (Scan.run i cs).tokens) : t.lexeme.WellFormed := by
  obtain ⟨j, rest, hplaced, -⟩ := Scan.placed i cs
  obtain ⟨done, w, rest', -, -, hw⟩ := hplaced.exists_spells ht
  exact hw.wellFormed

theorem parse_escape (hq : q = '\'' ∨ q = '"') (h : s.toList.getLast? ≠ some '\\') :
    parse (String.ofList (q :: (Literal.escape q s.toList ++ [q]))) = .ok (.leaf (.literal s)) := by
  refine parse_of_generates ⟨[.literal q s], ?_, .ofValue (.literal q s)⟩
  rw [String.toList_ofList]
  exact .single (spells_escape hq h) (by simp)

/-- **Escaping is exact, with either quote.** An escaped text is read back from its literal, up to the
closing quote and no further, exactly if it does not end in a backslash; no literal that is scanned
anywhere stands for another text; and these are the texts that literals of expressions stand for. -/
theorem literals_say_all_but_final_backslash (q : Char) (hq : q = '\'' ∨ q = '"') :
    (∀ (s : String) (i : Nat) (rest : List Char),
      lexeme i q (Literal.escape q s.toList ++ q :: rest) = .ok (.literal q s, rest) ↔
        s.toList.getLast? ≠ some '\\') ∧
    (∀ text : String, ∀ t ∈ (Scan.run 0 text.toList).tokens, ∀ s, t.lexeme = .literal q s →
      s.toList.getLast? ≠ some '\\') ∧
    ∀ s : String, (∃ text e, parse text = .ok e ∧ .leaf (.literal s) ∈ e.nodes) ↔
      s.toList.getLast? ≠ some '\\' := by
  refine ⟨fun s i rest => ⟨wellFormed_of_lexeme, fun h => lexeme_escape hq h i rest⟩, ?_, ?_⟩
  · intro text t ht s hs
    have hwf := wellFormed_of_scanned ht
    rwa [hs] at hwf
  · intro s
    constructor
    · rintro ⟨text, e, hparse, hmem⟩
      exact (generates_of_parse hparse).wellFormed.of_mem_nodes hmem
    · intro h
      exact ⟨_, _, parse_escape hq h, Expr.self_mem_nodes _⟩

/-- `\\"` stands for a backslash and a quote between double quotes, and `\'` for a quote between
single ones. -/
theorem literals_of_escaped_quotes :
    lexeme 3 '"' "a\\\\\"\" == $b".toList = .ok (.literal '"' "a\\\"", " == $b".toList) ∧
      lexeme 0 '\'' "\"\\'''".toList = .ok (.literal '\'' "\"'", ['\'']) :=
  ⟨((literals_say_all_but_final_backslash '"' (.inr rfl)).1 "a\\\"" 3 " == $b".toList).2 (by decide),
    ((literals_say_all_but_final_backslash '\'' (.inl rfl)).1 "\"'" 0 ['\'']).2 (by decide)⟩

end Scaffold.Stack
