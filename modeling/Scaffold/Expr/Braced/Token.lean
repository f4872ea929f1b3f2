import Scaffold.Expr.Fault
import Scaffold.Expr.Name

/-!
# Tokens of the braced syntax

A token is a variable `${name}`, a quoted string without escapes, a keyword, a bracket, a comma or
an operator. Keywords need no word boundary. The reading of `!=` depends on what the parser waits
for: where an operand is due it is a `!` with a stray `=` after it.
-/

namespace Scaffold.Braced

inductive Token
  | reference (name : String)
  | string (quote : Char) (text : String)
  | true
  | false
  | contains
  | opening
  | closing
  | openBracket
  | closeBracket
  | comma
  | or
  | and
  | equal
  | notEqual
  | bang
deriving DecidableEq, Repr

namespace Token

/-- The characters of a token. -/
def chars : Token → List Char
  | reference name => '$' :: '\x7b' :: (name.toList ++ ['\x7d'])
  | string quote text => quote :: (text.toList ++ [quote])
  | true => ['t', 'r', 'u', 'e']
  | false => ['f', 'a', 'l', 's', 'e']
  | contains => ['c', 'o', 'n', 't', 'a', 'i', 'n', 's']
  | opening => ['(']
  | closing => [')']
  | openBracket => ['[']
  | closeBracket => [']']
  | comma => [',']
  | or => ['|', '|']
  | and => ['&', '&']
  | equal => ['=', '=']
  | notEqual => ['!', '=']
  | bang => ['!']

def lexeme (t : Token) : String := String.ofList t.chars

end Token

/-- The blanks between tokens: space, tab, form feed, carriage return and line feed. -/
def isBlank (c : Char) : Bool :=
  c == ' ' || c == '\t' || c == '\x0c' || c == '\r' || c == '\n'

/-- The rest of `cs` after `word`. -/
def after? : (word cs : List Char) → Option (List Char)
  | [], cs => some cs
  | _ :: _, [] => none
  | w :: ws, c :: cs => if w = c then after? ws cs else none

/-- A string whose opening quote `q` is read: the characters up to the next `q`. -/
def stringAt (q : Char) (cs : List Char) : Option (Token × List Char) :=
  match cs.dropWhile (· ≠ q) with
  | [] => none
  | _ :: rest => some (.string q (String.ofList (cs.takeWhile (· ≠ q))), rest)

/-- A variable whose `$` is read. -/
def referenceAt : List Char → Option (Token × List Char)
  | '\x7b' :: cs =>
    let name := cs.takeWhile Name.isChar
    match cs.dropWhile Name.isChar with
    | '\x7d' :: rest => if name.isEmpty then none else some (.reference (String.ofList name), rest)
    | _ => none
  | _ => none

/-- The tokens that are always written the same, in the order in which they are tried. Where an
operand is due, `!=` is none of them. -/
def fixedTokens (operandDue : Bool) : List Token :=
  (if operandDue then [.bang] else [.notEqual, .bang]) ++
    [.contains, .false, .true, .or, .and, .equal, .opening, .closing, .openBracket, .closeBracket,
      .comma]

/-- The token at the start of `cs`, and the characters after it. -/
def tokenAt (operandDue : Bool) : List Char → Option (Token × List Char)
  | [] => none
  | c :: cs =>
    if c = '$' then referenceAt cs
    else if c = '\'' ∨ c = '"' then stringAt c cs
    else (fixedTokens operandDue).findSome? fun t => (after? t.chars (c :: cs)).map (t, ·)

section Progress

variable {operandDue : Bool} {t : Token} {cs rest : List Char}

theorem Token.chars_ne_nil (t : Token) : t.chars ≠ [] := by
  cases t <;> simp [chars]

theorem length_add_of_after? {word : List Char} (h : after? word cs = some rest) :
    rest.length + word.length = cs.length := by
  induction word generalizing cs with
  | nil => simp_all [after?]
  | cons w ws ih =>
    cases cs with
    | nil => simp [after?] at h
    | cons c cs =>
      simp only [after?] at h
      split at h
      · simp only [List.length_cons, ← Nat.add_assoc, ih h]
      · simp at h

theorem length_lt_of_stringAt {q : Char} (h : stringAt q cs = some (t, rest)) :
    rest.length < cs.length := by
  simp only [stringAt] at h
  split at h
  · simp at h
  · rename_i c r hr
    simp only [Option.some.injEq, Prod.mk.injEq] at h
    have := (List.dropWhile_sublist (· ≠ q) (l := cs)).length_le
    rw [hr] at this
    rw [← h.2]
    simp only [List.length_cons] at this
    omega

theorem length_lt_of_referenceAt (h : referenceAt cs = some (t, rest)) :
    rest.length < cs.length := by
  unfold referenceAt at h
  split at h
  · rename_i cs
    simp only at h
    split at h
    · rename_i r hr
      split at h
      · simp at h
      · simp only [Option.some.injEq, Prod.mk.injEq] at h
        have := (List.dropWhile_sublist Name.isChar (l := cs)).length_le
        rw [hr] at this
        rw [← h.2]
        simp only [List.length_cons] at this ⊢
        omega
    · simp at h
  · simp at h

theorem length_lt_of_tokenAt (h : tokenAt operandDue cs = some (t, rest)) :
    rest.length < cs.length := by
  cases cs with
  | nil => simp [tokenAt] at h
  | cons c cs =>
    simp only [tokenAt] at h
    split at h
    · exact Nat.lt_succ_of_lt (length_lt_of_referenceAt h)
    · split at h
      · exact Nat.lt_succ_of_lt (length_lt_of_stringAt h)
      · obtain ⟨u, -, hu⟩ := List.exists_of_findSome?_eq_some h
        simp only [Option.map_eq_some_iff, Prod.mk.injEq] at hu
        obtain ⟨r, hr, -, rfl⟩ := hu
        have := length_add_of_after? hr
        have := List.length_pos_iff.mpr u.chars_ne_nil
        omega

end Progress

end Scaffold.Braced
