import Scaffold.Expr.Stack.Printer
import Scaffold.Proofs.Stack.Language

/-!
# Writing and reading the stack syntax

`WellFormed` describes the trees of the stack syntax without its texts.
`stack_print_parse_roundtrip`: reading gives such trees only, and each of them is written as a text
that reads as the tree again. Both halves go through the grammar: what is read derives its tree, and
what is written spells lexemes that derive the tree (`exists_print`), so the parser itself is never
run here.
-/

namespace Scaffold.Stack

/-- The trees of the stack syntax: values are compared, conditions are joined. -/
def WellFormed : Expr → Prop
  | .leaf (.literal text) => text.toList.getLast? ≠ some '\\'
  | .leaf (.reference name) => Name.IsName name
  | .leaf (.truth _) | .leaf (.array _) => False
  | .not operand => WellFormed operand
  | .comparison op left right =>
    (op = .equal ∨ op = .notEqual) ∧ (left.isLeaf = true ∧ right.isLeaf = true) ∧
      WellFormed left ∧ WellFormed right
  | .condition _ left right =>
    (left.isLeaf = false ∧ right.isLeaf = false) ∧ WellFormed left ∧ WellFormed right
  | .foreign _ => False

/-- Well-formedness is checked node by node. -/
instance WellFormed.decidable : DecidablePred WellFormed
  | .leaf (.literal text) => inferInstanceAs (Decidable (text.toList.getLast? ≠ some '\\'))
  | .leaf (.reference name) => inferInstanceAs (Decidable (Name.IsName name))
  | .leaf (.truth _) | .leaf (.array _) => inferInstanceAs (Decidable False)
  | .not operand => WellFormed.decidable operand
  | .comparison op left right =>
    haveI := WellFormed.decidable left
    haveI := WellFormed.decidable right
    inferInstanceAs (Decidable ((op = .equal ∨ op = .notEqual) ∧
      (left.isLeaf = true ∧ right.isLeaf = true) ∧ WellFormed left ∧ WellFormed right))
  | .condition _ left right =>
    haveI := WellFormed.decidable left
    haveI := WellFormed.decidable right
    inferInstanceAs (Decidable ((left.isLeaf = false ∧ right.isLeaf = false) ∧
      WellFormed left ∧ WellFormed right))
  | .foreign _ => inferInstanceAs (Decidable False)

/-! ### Trees that are read -/

/-- What a lexeme brings to a tree. -/
def Lexeme.WellFormed : Lexeme → Prop
  | .reference name => Name.IsName name
  | .literal _ text => text.toList.getLast? ≠ some '\\'
  | _ => True

theorem Spells.wellFormed {l : Lexeme} {w : List Char} (h : Spells l w) : l.WellFormed := by
  cases h with
  | reference h => exact h
  | literal hq h =>
    rw [Lexeme.WellFormed, String.toList_ofList]
    exact h.getLast?_unescape (quote_ne_backslash hq)
  | _ => trivial

theorem Spelled.wellFormed {ls : List Lexeme} {cs : List Char} (h : Spelled ls cs) :
    ∀ l ∈ ls, l.WellFormed := by
  induction h with
  | nil => simp
  | blank _ _ ih => exact ih
  | lexeme hw _ _ ih => exact List.forall_mem_cons.2 ⟨hw.wellFormed, ih⟩

theorem Derives.wellFormed {c : Category} {ls : List Lexeme} {e : Expr} (h : Derives c ls e)
    (hls : ∀ l ∈ ls, l.WellFormed) : WellFormed e := by
  induction h with
  | ofValue _ ih | ofCondition _ ih | ofUnit _ ih => exact ih hls
  | reference name => exact hls (.reference name) (by simp)
  | literal q text => exact hls (.literal q text) (by simp)
  | valueGroup _ ih | conditionGroup _ ih => exact ih fun l hl => hls l (by simp [hl])
  | not _ ih => exact ih fun l hl => hls l (by simp [hl])
  | equal hl hr ihl ihr =>
    exact ⟨.inl rfl, ⟨hl.isLeaf_of_value, hr.isLeaf_of_value⟩, ihl fun l h => hls l (by simp [h]),
      ihr fun l h => hls l (by simp [h])⟩
  | notEqual hl hr ihl ihr =>
    exact ⟨.inr rfl, ⟨hl.isLeaf_of_value, hr.isLeaf_of_value⟩, ihl fun l h => hls l (by simp [h]),
      ihr fun l h => hls l (by simp [h])⟩
  | join s hl hr ihl ihr =>
    exact ⟨⟨hl.not_isLeaf_of_condition, hr.not_isLeaf_of_unit⟩, ihl fun l h => hls l (by simp [h]),
      ihr fun l h => hls l (by simp [h])⟩

theorem Generates.wellFormed {text : String} {e : Expr} (h : Generates text e) : WellFormed e := by
  obtain ⟨ls, hsp, hd⟩ := h
  exact hd.wellFormed hsp.wellFormed

/-! ### Texts that are written -/

namespace Spelled

variable {ls ls' : List Lexeme} {cs cs' w : List Char} {l : Lexeme}

theorem append (h : Spelled ls cs) (h' : Spelled ls' cs') : Spelled (ls ++ ls') (cs ++ cs') := by
  induction h with
  | nil => exact h'
  | blank hc _ ih => exact .blank hc ih
  | @lexeme l ls w cs hw hbang _ ih =>
    rw [List.append_assoc]
    refine .lexeme hw (fun hl => ?_) ih
    rw [List.head?_append, hbang hl]
    rfl

theorem single (hw : Spells l w) (hl : l ≠ .bang) : Spelled [l] w := by
  have h := Spelled.lexeme hw (fun h => absurd h hl) .nil
  rwa [List.append_nil] at h

theorem space (h : Spelled ls cs) : Spelled ls (' ' :: cs) := .blank (by decide) h

theorem paren (h : Spelled ls cs) :
    Spelled (.opening :: (ls ++ [.closing])) ('(' :: (cs ++ [')'])) :=
  .lexeme .opening (by simp) (h.append (single .closing (by simp)))

end Spelled

theorem spelled_comparison {s : Sign} {op : Comparison} (hs : s.comparison? = some op) :
    Spelled [.sign s] op.symbol.toList := by
  cases s with
  | equal => cases hs; exact .single .equal (by simp)
  | notEqual => cases hs; exact .single .notEqual (by simp)
  | and | or | xor => cases hs

theorem exists_sign (op : Connective) :
    ∃ s : Sign, s.connective = op ∧ Spelled [.sign s] op.symbol.toList := by
  cases op with
  | and => exact ⟨.and, rfl, .single .and (by simp)⟩
  | or => exact ⟨.or, rfl, .single .or (by simp)⟩
  | xor => exact ⟨.xor, rfl, .single .xor (by simp)⟩
  | is => exact ⟨.equal, rfl, .single .equal (by simp)⟩
  | isNot => exact ⟨.notEqual, rfl, .single .notEqual (by simp)⟩

theorem spells_escape {q : Char} {text : String} (hq : q = '\'' ∨ q = '"')
    (h : text.toList.getLast? ≠ some '\\') :
    Spells (.literal q text) (q :: (Literal.escape q text.toList ++ [q])) := by
  have hne := quote_ne_backslash hq
  have hsp := Spells.literal hq (Literal.enclosed_escape hne h)
  rwa [Literal.unescape_escape hne, String.ofList_toList] at hsp

theorem exists_printLiteral {text : String} (h : text.toList.getLast? ≠ some '\\') :
    ∃ s, printLiteral text = .ok s ∧ Spelled [.literal '"' text] s.toList := by
  refine ⟨_, if_neg h, ?_⟩
  rw [String.toList_ofList]
  exact .single (spells_escape (.inr rfl) h) (by simp)

/-- A well-formed tree is written as lexemes that derive it. -/
theorem exists_print {e : Expr} (h : WellFormed e) :
    ∃ s ls, print e = .ok s ∧ Spelled ls s.toList ∧ Derives .expression ls e := by
  induction e with
  | foreign kind => exact h.elim
  | leaf l =>
    cases l with
    | truth _ => exact h.elim
    | array _ => exact h.elim
    | literal text =>
      obtain ⟨s, hs, hsp⟩ := exists_printLiteral h
      exact ⟨s, _, hs, hsp, .ofValue (.literal _ _)⟩
    | reference name =>
      refine ⟨"$" ++ name, _, if_pos (Name.isWritable_of_isName h), ?_, .ofValue (.reference name)⟩
      rw [String.toList_append]
      exact .single (.reference h) (by simp)
  | not operand ih =>
    obtain ⟨s, ls, hs, hsp, hd⟩ := ih h
    -- a negation always has its parentheses, whatever it negates
    refine ⟨"!(" ++ s ++ ")", _, by rw [print, hs]; rfl, ?_, .ofCondition (.ofUnit (.not hd))⟩
    have := Spelled.lexeme .bang (fun _ => rfl) hsp.paren
    simpa using this
  | comparison op left right ihl ihr =>
    obtain ⟨hop, ⟨hleft, hright⟩, hl, hr⟩ := h
    obtain ⟨s, ls, hs, hsp, hd⟩ := ihl hl
    obtain ⟨s', ls', hs', hsp', hd'⟩ := ihr hr
    obtain ⟨sign, hsign⟩ : ∃ sign : Sign, sign.comparison? = some op := by
      rcases hop with rfl | rfl
      exacts [⟨.equal, rfl⟩, ⟨.notEqual, rfl⟩]
    refine ⟨s ++ " " ++ op.symbol ++ " " ++ s', ls ++ .sign sign :: ls', ?_, ?_, ?_⟩
    · have hne : op ≠ .contains := by rcases hop with rfl | rfl <;> simp
      rw [print, if_neg hne, hs, hs']
      rfl
    · have := hsp.append ((spelled_comparison hsign).space.append hsp'.space)
      simpa using this
    · exact .ofCondition (.ofUnit (.comparison hsign (hd.value_of_isLeaf hleft)
        (hd'.value_of_isLeaf hright)))
  | condition op left right ihl ihr =>
    obtain ⟨⟨hleft, hright⟩, hl, hr⟩ := h
    obtain ⟨s, ls, hs, hsp, hd⟩ := ihl hl
    obtain ⟨s', ls', hs', hsp', hd'⟩ := ihr hr
    obtain ⟨sign, rfl, hsign⟩ := exists_sign op
    refine ⟨"(" ++ s ++ ") " ++ sign.connective.symbol ++ " (" ++ s' ++ ")", _, ?_, ?_,
      .ofCondition (.join sign (.ofUnit (.conditionGroup (hd.condition_of_not_isLeaf hleft)))
        (.conditionGroup (hd'.condition_of_not_isLeaf hright)))⟩
    · rw [print, if_neg (by simp [hleft, hright]), hs, hs']
      rfl
    · have := hsp.paren.append (hsign.space.append hsp'.paren.space)
      simpa using this

/-- Reading gives well-formed trees only, and a well-formed tree is written as a text that reads as
the tree. -/
theorem stack_print_parse_roundtrip :
    (∀ text e, parse text = .ok e → WellFormed e) ∧
      ∀ e, WellFormed e → ∃ text, print e = .ok text ∧ parse text = .ok e := by
  refine ⟨fun text e h => (generates_of_parse h).wellFormed, fun e h => ?_⟩
  obtain ⟨text, ls, hprint, hsp, hd⟩ := exists_print h
  exact ⟨text, hprint, parse_of_generates ⟨ls, hsp, hd⟩⟩

/-- A tree with an escaped quote behind a backslash, a bracket and a bang in a literal. -/
theorem roundtrip_of_escaped_literal :
    ∃ text e, e = Expr.condition .or (.not (.leaf (.reference "b.c")))
        (.comparison .notEqual (.leaf (.literal "it's \\\"!(")) (.leaf (.reference "a-1"))) ∧
      WellFormed e ∧ print e = .ok text ∧ parse text = .ok e := by
  obtain ⟨text, hprint, hparse⟩ := stack_print_parse_roundtrip.2
    (.condition .or (.not (.leaf (.reference "b.c")))
      (.comparison .notEqual (.leaf (.literal "it's \\\"!(")) (.leaf (.reference "a-1"))))
    (by decide)
  exact ⟨text, _, rfl, stack_print_parse_roundtrip.1 text _ hparse, hprint, hparse⟩

end Scaffold.Stack
