import Mathlib.Data.List.Chain
import Scaffold.Expr.Stack.Parser

/-!
# The grammar of the stack syntax

A text of the stack syntax is a row of lexemes with blanks anywhere between them (`Spelled`). The
rows that are expressions, and their trees, are those of the productions (`Derives`)

    E → V | C     V → VAR | LIT | ( V )     U → V == V | V != V | ( C ) | !( E )     C → U | C op U

where `op` is any of the five signs. `Generates` puts the two together. Nothing here mentions the
scanner or the scopes: this is what they are measured against.
-/

namespace Scaffold.Stack

/-! ### Spelling -/

namespace Literal

/-- What characters between two quotes `q` stand for: a backslash with a `q` after it is that `q`,
every other character is itself. -/
def unescape (q : Char) : List Char → List Char
  | [] => []
  | [c] => [c]
  | c :: d :: cs => if c = '\\' ∧ d = q then q :: unescape q cs else c :: unescape q (d :: cs)

/-- Between two quotes `q`, the characters `raw` reach up to the first `q` that has no backslash
directly before it. -/
structure Enclosed (q : Char) (raw : List Char) : Prop where
  inner : ∀ before after, raw = before ++ q :: after → before.getLast? = some '\\'
  closing : raw.getLast? ≠ some '\\'

end Literal

/-- The characters that write a lexeme. -/
inductive Spells : Lexeme → List Char → Prop
  | opening : Spells .opening ['(']
  | closing : Spells .closing [')']
  | bang : Spells .bang ['!']
  | equal : Spells (.sign .equal) ['=', '=']
  | notEqual : Spells (.sign .notEqual) ['!', '=']
  | and : Spells (.sign .and) ['&', '&']
  | or : Spells (.sign .or) ['|', '|']
  | xor : Spells (.sign .xor) ['^']
  | reference {name : String} (h : Name.IsName name) : Spells (.reference name) ('$' :: name.toList)
  | literal {q : Char} {raw : List Char} (hq : q = '\'' ∨ q = '"') (h : Literal.Enclosed q raw) :
      Spells (.literal q (String.ofList (Literal.unescape q raw))) (q :: (raw ++ [q]))

/-- The characters `cs` are the lexemes `ls` in their order, with blanks anywhere between them but
after a `!`, which stands directly before a parenthesis. -/
inductive Spelled : List Lexeme → List Char → Prop
  | nil : Spelled [] []
  | blank {c : Char} {ls : List Lexeme} {cs : List Char} (hc : Text.isBlank c = true)
      (h : Spelled ls cs) : Spelled ls (c :: cs)
  | lexeme {l : Lexeme} {ls : List Lexeme} {w cs : List Char} (hw : Spells l w)
      (hbang : l = .bang → cs.head? = some '(') (h : Spelled ls cs) : Spelled (l :: ls) (w ++ cs)

/-! ### Productions -/

/-- The connective that a sign is between two conditions. -/
def Sign.connective : Sign → Connective
  | equal => .is
  | notEqual => .isNot
  | and => .and
  | or => .or
  | xor => .xor

/-- The nonterminals `E`, `V`, `U` and `C`. -/
inductive Category
  | expression
  | value
  | unit
  | condition
deriving DecidableEq, Repr

/-- The lexemes `ls` are of a category and have the tree `e`. Parentheses add no node and all five
signs group to the left on one level. -/
inductive Derives : Category → (ls : List Lexeme) → (e : Expr) → Prop
  | ofValue {ls : List Lexeme} {e : Expr} (h : Derives .value ls e) : Derives .expression ls e
  | ofCondition {ls : List Lexeme} {e : Expr} (h : Derives .condition ls e) :
      Derives .expression ls e
  | reference (name : String) : Derives .value [.reference name] (.leaf (.reference name))
  | literal (q : Char) (text : String) : Derives .value [.literal q text] (.leaf (.literal text))
  | valueGroup {ls : List Lexeme} {e : Expr} (h : Derives .value ls e) :
      Derives .value (.opening :: (ls ++ [.closing])) e
  | equal {ls rs : List Lexeme} {l r : Expr} (hl : Derives .value ls l) (hr : Derives .value rs r) :
      Derives .unit (ls ++ .sign .equal :: rs) (.comparison .equal l r)
  | notEqual {ls rs : List Lexeme} {l r : Expr} (hl : Derives .value ls l)
      (hr : Derives .value rs r) :
      Derives .unit (ls ++ .sign .notEqual :: rs) (.comparison .notEqual l r)
  | conditionGroup {ls : List Lexeme} {e : Expr} (h : Derives .condition ls e) :
      Derives .unit (.opening :: (ls ++ [.closing])) e
  | not {ls : List Lexeme} {e : Expr} (h : Derives .expression ls e) :
      Derives .unit (.bang :: .opening :: (ls ++ [.closing])) (.not e)
  | ofUnit {ls : List Lexeme} {e : Expr} (h : Derives .unit ls e) : Derives .condition ls e
  | join (s : Sign) {ls rs : List Lexeme} {l r : Expr} (hl : Derives .condition ls l)
      (hr : Derives .unit rs r) :
      Derives .condition (ls ++ .sign s :: rs) (.condition s.connective l r)

/-- The whole text derives the tree `e`. -/
def Generates (text : String) (e : Expr) : Prop :=
  ∃ ls, Spelled ls text.toList ∧ Derives .expression ls e

/-! ### Shape of derivations -/

namespace Lexeme

/-- Can an operand begin with this lexeme? -/
def begins : Lexeme → Bool
  | opening | bang | reference _ | literal _ _ => true
  | closing | sign _ => false

/-- Can an operand end with this lexeme? -/
def ends : Lexeme → Bool
  | closing | reference _ | literal _ _ => true
  | opening | bang | sign _ => false

/-- No operand begins where another one has just ended. -/
def Fits (a b : Lexeme) : Prop := a.ends = true → b.begins = false

end Lexeme

namespace Derives

variable {c : Category} {ls : List Lexeme} {e : Expr}

theorem isLeaf_eq (h : Derives c ls e) :
    (c = .value → e.isLeaf = true) ∧ (c = .unit ∨ c = .condition → e.isLeaf = false) := by
  induction h <;> simp_all [Expr.isLeaf]

theorem isLeaf_of_value (h : Derives .value ls e) : e.isLeaf = true := h.isLeaf_eq.1 rfl

theorem not_isLeaf_of_unit (h : Derives .unit ls e) : e.isLeaf = false := h.isLeaf_eq.2 (.inl rfl)

theorem not_isLeaf_of_condition (h : Derives .condition ls e) : e.isLeaf = false :=
  h.isLeaf_eq.2 (.inr rfl)

/-- What begins, what ends and what may stand side by side in a row that derives a tree. -/
structure Framed (ls : List Lexeme) : Prop where
  first : ∃ l ∈ ls.head?, l.begins = true
  last : ∃ l ∈ ls.getLast?, l.ends = true
  chain : ls.IsChain Lexeme.Fits

theorem Framed.append_sign {rs : List Lexeme} {s : Sign} (hl : Framed ls) (hr : Framed rs) :
    Framed (ls ++ .sign s :: rs) := by
  obtain ⟨a, ha, hab⟩ := hl.first
  obtain ⟨z, hz, hze⟩ := hr.last
  refine ⟨⟨a, ?_, hab⟩, ⟨z, ?_, hze⟩, ?_⟩
  · simp_all
  · simp_all [List.getLast?_append, List.getLast?_cons]
  · refine List.isChain_append.2 ⟨hl.chain, List.isChain_cons.2 ⟨?_, hr.chain⟩, ?_⟩
    · intro b _ hs
      simp [Lexeme.ends] at hs
    · simp [Lexeme.Fits, Lexeme.begins]

theorem Framed.paren {ls : List Lexeme} (h : Framed ls) :
    Framed (.opening :: (ls ++ [.closing])) := by
  refine ⟨⟨_, rfl, rfl⟩, ⟨.closing, by simp [List.getLast?_cons], rfl⟩, ?_⟩
  refine List.isChain_cons.2 ⟨by simp [Lexeme.Fits, Lexeme.ends], ?_⟩
  exact List.isChain_append.2 ⟨h.chain, .singleton _, by simp [Lexeme.Fits, Lexeme.begins]⟩

theorem framed (h : Derives c ls e) : Framed ls := by
  induction h with
  | ofValue _ ih | ofCondition _ ih | ofUnit _ ih => exact ih
  | reference name => exact ⟨⟨_, rfl, rfl⟩, ⟨_, rfl, rfl⟩, .singleton _⟩
  | literal q text => exact ⟨⟨_, rfl, rfl⟩, ⟨_, rfl, rfl⟩, .singleton _⟩
  | valueGroup _ ih | conditionGroup _ ih => exact ih.paren
  | equal _ _ ihl ihr | notEqual _ _ ihl ihr | join _ _ _ ihl ihr => exact ihl.append_sign ihr
  | not _ ih =>
    obtain ⟨-, ⟨z, hz, hze⟩, hc⟩ := ih.paren
    refine ⟨⟨_, rfl, rfl⟩, ⟨z, by simpa [List.getLast?_cons] using hz, hze⟩, ?_⟩
    exact List.isChain_cons.2 ⟨by simp [Lexeme.Fits, Lexeme.ends], hc⟩

end Derives

end Scaffold.Stack
