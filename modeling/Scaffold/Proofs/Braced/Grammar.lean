import Scaffold.Expr.Braced.Parser

/-!
# The grammar of the braced syntax

A text of the braced syntax is a row of tokens with blanks anywhere between them (`Spelled`); where
one token ends and the next begins is not laid down, so nothing is lexed here. The rows that have a
grammar tree are those of the productions (`Derives`), one category for each level of precedence:

    or       → and      | or || and
    and      → equality | and && equality
    equality → holding  | equality == holding | equality != holding
    holding  → unary    | holding contains unary
    unary    → atom     | ! unary
    atom     → VARIABLE | STRING | true | false | [ STRING, … ] | ( or )

Tokens carry their index, and a binary node the index of the first token of its left operand.
-/

namespace Scaffold.Braced

/-- A token and the index of its first character. -/
structure Located where
  token : Token
  index : Nat
deriving DecidableEq, Repr

/-! ### Spelling -/

/-- The characters that write a token. -/
inductive Spells : Token → List Char → Prop
  | reference {name : String} (h : Name.IsName name) :
      Spells (.reference name) ('$' :: '\x7b' :: (name.toList ++ ['\x7d']))
  | string {q : Char} {text : String} (hq : q = '\'' ∨ q = '"') (h : q ∉ text.toList) :
      Spells (.string q text) (q :: (text.toList ++ [q]))
  | true : Spells .true ['t', 'r', 'u', 'e']
  | false : Spells .false ['f', 'a', 'l', 's', 'e']
  | contains : Spells .contains ['c', 'o', 'n', 't', 'a', 'i', 'n', 's']
  | opening : Spells .opening ['(']
  | closing : Spells .closing [')']
  | openBracket : Spells .openBracket ['[']
  | closeBracket : Spells .closeBracket [']']
  | comma : Spells .comma [',']
  | or : Spells .or ['|', '|']
  | and : Spells .and ['&', '&']
  | equal : Spells .equal ['=', '=']
  | notEqual : Spells .notEqual ['!', '=']
  | bang : Spells .bang ['!']

/-- The characters `cs`, which begin at index `i`, are the tokens `ts` in their order, with blanks
anywhere between them. -/
inductive Spelled : (i : Nat) → (ts : List Located) → (cs : List Char) → Prop
  | nil {i : Nat} : Spelled i [] []
  | blank {i : Nat} {c : Char} {ts : List Located} {cs : List Char} (hc : isBlank c = true)
      (h : Spelled (i + 1) ts cs) : Spelled i ts (c :: cs)
  | token {i : Nat} {t : Token} {ts : List Located} {w cs : List Char} (hw : Spells t w)
      (h : Spelled (i + w.length) ts cs) : Spelled i (⟨t, i⟩ :: ts) (w ++ cs)

/-! ### Productions -/

/-- The levels of precedence, loosest first. -/
inductive Level
  | or
  | and
  | equality
  | holding
  | unary
  | atom
deriving DecidableEq, Repr

/-- The index of the first token. -/
def first : List Located → Nat
  | [] => 0
  | t :: _ => t.index

/-- Strings with commas between them. -/
inductive Items : List Located → (items : List String) → Prop
  | single (q : Char) (text : String) (i : Nat) : Items [⟨.string q text, i⟩] [text]
  | cons (q : Char) (text : String) (i j : Nat) {ts : List Located} {items : List String}
      (h : Items ts items) : Items (⟨.string q text, i⟩ :: ⟨.comma, j⟩ :: ts) (text :: items)

/-- The tokens `ts` are of a level and have the grammar tree `t`. -/
inductive Derives : Level → (ts : List Located) → (t : Tree) → Prop
  | ofAnd {ts : List Located} {t : Tree} (h : Derives .and ts t) : Derives .or ts t
  | or {ls rs : List Located} {l r : Tree} (i : Nat) (hl : Derives .or ls l)
      (hr : Derives .and rs r) : Derives .or (ls ++ ⟨.or, i⟩ :: rs) (.binary .or (first ls) l r)
  | ofEquality {ts : List Located} {t : Tree} (h : Derives .equality ts t) : Derives .and ts t
  | and {ls rs : List Located} {l r : Tree} (i : Nat) (hl : Derives .and ls l)
      (hr : Derives .equality rs r) :
      Derives .and (ls ++ ⟨.and, i⟩ :: rs) (.binary .and (first ls) l r)
  | ofHolding {ts : List Located} {t : Tree} (h : Derives .holding ts t) : Derives .equality ts t
  | equal {ls rs : List Located} {l r : Tree} (i : Nat) (hl : Derives .equality ls l)
      (hr : Derives .holding rs r) :
      Derives .equality (ls ++ ⟨.equal, i⟩ :: rs) (.binary .equal (first ls) l r)
  | notEqual {ls rs : List Located} {l r : Tree} (i : Nat) (hl : Derives .equality ls l)
      (hr : Derives .holding rs r) :
      Derives .equality (ls ++ ⟨.notEqual, i⟩ :: rs) (.binary .notEqual (first ls) l r)
  | ofUnary {ts : List Located} {t : Tree} (h : Derives .unary ts t) : Derives .holding ts t
  | contains {ls rs : List Located} {l r : Tree} (i : Nat) (hl : Derives .holding ls l)
      (hr : Derives .unary rs r) :
      Derives .holding (ls ++ ⟨.contains, i⟩ :: rs) (.binary .contains (first ls) l r)
  | ofAtom {ts : List Located} {t : Tree} (h : Derives .atom ts t) : Derives .unary ts t
  | not {ts : List Located} {t : Tree} (i : Nat) (h : Derives .unary ts t) :
      Derives .unary (⟨.bang, i⟩ :: ts) (.not t)
  | reference (name : String) (i : Nat) :
      Derives .atom [⟨.reference name, i⟩] (.leaf (.reference name))
  | string (q : Char) (text : String) (i : Nat) :
      Derives .atom [⟨.string q text, i⟩] (.leaf (.literal text))
  | true (i : Nat) : Derives .atom [⟨.true, i⟩] (.leaf (.truth .true))
  | false (i : Nat) : Derives .atom [⟨.false, i⟩] (.leaf (.truth .false))
  | emptyArray (i j : Nat) :
      Derives .atom [⟨.openBracket, i⟩, ⟨.closeBracket, j⟩] (.leaf (.array []))
  | array (i j : Nat) {ts : List Located} {items : List String} (h : Items ts items) :
      Derives .atom (⟨.openBracket, i⟩ :: (ts ++ [⟨.closeBracket, j⟩])) (.leaf (.array items))
  | paren (i j : Nat) {ts : List Located} {t : Tree} (h : Derives .or ts t) :
      Derives .atom (⟨.opening, i⟩ :: (ts ++ [⟨.closing, j⟩])) t

/-- The whole text derives the grammar tree `t`. -/
def Generates (text : String) (t : Tree) : Prop :=
  ∃ ts, Spelled 0 ts text.toList ∧ Derives .or ts t

/-! ### Levels as numbers -/

namespace Level

def rank : Level → Nat
  | or => 0
  | and => 1
  | equality => 2
  | holding => 3
  | unary => 4
  | atom => 5

/-- The next looser level. -/
def looser : Level → Level
  | or => or
  | and => or
  | equality => and
  | holding => equality
  | unary => holding
  | atom => unary

theorem rank_looser (a : Level) : a.looser.rank = a.rank - 1 := by cases a <;> rfl

theorem eq_of_rank_eq {a b : Level} (h : a.rank = b.rank) : a = b := by
  cases a <;> cases b <;> simp_all [rank]

end Level

namespace Infix

/-- The level of an operator's nodes, which is that of its left operands. -/
def outer : Infix → Level
  | or => .or
  | and => .and
  | equal | notEqual => .equality
  | contains => .holding

/-- The level of an operator's right operands. -/
def inner : Infix → Level
  | or => .and
  | and => .equality
  | equal | notEqual => .holding
  | contains => .unary

def token : Infix → Token
  | or => .or
  | and => .and
  | equal => .equal
  | notEqual => .notEqual
  | contains => .contains

@[simp] theorem rank_outer (op : Infix) : op.outer.rank = op.level := by cases op <;> rfl

@[simp] theorem rank_inner (op : Infix) : op.inner.rank = op.level + 1 := by cases op <;> rfl

theorem level_le_three (op : Infix) : op.level ≤ 3 := by cases op <;> decide

end Infix

theorem Token.eq_of_binary? {t : Token} {op : Infix} (h : t.binary? = some op) : t = op.token := by
  cases t <;> cases h <;> rfl

section First

variable {ts us : List Located} {items : List String} {t : Tree} {a b : Level}

theorem first_append (h : ts ≠ []) : first (ts ++ us) = first ts := by
  cases ts with
  | nil => exact absurd rfl h
  | cons t ts => rfl

theorem Derives.ne_nil (h : Derives a ts t) : ts ≠ [] := by
  induction h <;> simp_all

theorem Derives.looser (h : Derives a ts t) : Derives a.looser ts t := by
  cases a with
  | or => exact h
  | and => exact .ofAnd h
  | equality => exact .ofEquality h
  | holding => exact .ofHolding h
  | unary => exact .ofUnary h
  | atom => exact .ofAtom h

theorem Derives.lift (h : Derives a ts t) (hab : b.rank ≤ a.rank) : Derives b ts t := by
  induction hn : a.rank - b.rank generalizing a with
  | zero =>
    obtain rfl : a = b := Level.eq_of_rank_eq (by omega)
    exact h
  | succ n ih =>
    have := a.rank_looser
    exact ih h.looser (by omega) (by omega)

theorem Derives.binary (op : Infix) {ls rs : List Located} {l r : Tree} (i : Nat)
    (hl : Derives op.outer ls l) (hr : Derives op.inner rs r) :
    Derives op.outer (ls ++ ⟨op.token, i⟩ :: rs) (.binary op (first ls) l r) := by
  cases op with
  | or => exact .or i hl hr
  | and => exact .and i hl hr
  | equal => exact .equal i hl hr
  | notEqual => exact .notEqual i hl hr
  | contains => exact .contains i hl hr

theorem Items.snoc (h : Items ts items) (q : Char) (text : String) (i j : Nat) :
    Items (ts ++ [⟨.comma, j⟩, ⟨.string q text, i⟩]) (items ++ [text]) := by
  induction h with
  | single q' text' i' => exact .cons q' text' i' j (.single q text i)
  | cons q' text' i' j' _ ih => exact .cons q' text' i' j' ih

end First

end Scaffold.Braced
