import Scaffold.Expr.Fault
import Scaffold.Expr.Name
import Scaffold.Text.Blank

/-!
# Tokens of the stack syntax

A token is a parenthesis, a `!` that stands directly before a parenthesis, an operator sign, a
variable `$name` or a quoted literal. Blanks separate tokens and are dropped. `Scan.run` cuts a
text into its tokens, up to the first place where none can be formed.
-/

namespace Scaffold.Stack

/-- The operator signs. -/
inductive Sign
  | equal
  | notEqual
  | and
  | or
  | xor
deriving DecidableEq, Repr

/-- What a token says. -/
inductive Lexeme
  | opening
  | closing
  | bang
  | sign (s : Sign)
  | reference (name : String)
  | literal (quote : Char) (text : String)
deriving DecidableEq, Repr

/-- A lexeme and the index of its first character. -/
structure Token where
  start : Nat
  lexeme : Lexeme
deriving DecidableEq, Repr

namespace Literal

/-- Reads a literal after its opening quote `q`: the text up to the next `q`, where a backslash
before `q` stands for `q` itself, and the characters after the closing quote. -/
def body (q : Char) : List Char → Option (List Char × List Char)
  | [] => none
  | [c] => if c = q then some ([], []) else none
  | c :: d :: cs =>
    if c = q then some ([], d :: cs)
    else if c = '\\' ∧ d = q then (body q cs).map fun (text, rest) => (q :: text, rest)
    else (body q (d :: cs)).map fun (text, rest) => (c :: text, rest)

/-- Writes a text for the inside of a literal with quotes `q`. -/
def escape (q : Char) (cs : List Char) : List Char :=
  cs.flatMap fun c => if c = q then ['\\', q] else [c]

theorem length_lt_of_body {q : Char} {cs text rest : List Char}
    (h : body q cs = some (text, rest)) : rest.length < cs.length := by
  fun_induction body q cs generalizing text with
  | case1 => simp at h
  | case2 => simp_all
  | case3 => simp at h
  | case4 => simp_all
  | case5 c d cs _ _ ih =>
    simp only [Option.map_eq_some_iff, Prod.mk.injEq, Prod.exists] at h
    obtain ⟨t, r, hb, -, rfl⟩ := h
    have := ih hb
    simp only [List.length_cons]; omega
  | case6 c d cs _ _ ih =>
    simp only [Option.map_eq_some_iff, Prod.mk.injEq, Prod.exists] at h
    obtain ⟨t, r, hb, -, rfl⟩ := h
    have := ih hb
    simp only [List.length_cons] at this ⊢; omega

end Literal

/-- The characters that begin an operator sign. -/
def isSignChar (c : Char) : Bool := c == '=' || c == '!' || c == '&' || c == '|' || c == '^'

/-- The characters that may follow a variable name. -/
def endsName (c : Char) : Bool := Text.isBlank c || c == '(' || c == ')' || isSignChar c

/-- A two-character sign whose first character is read and whose second one has to be `c`. -/
def second (i : Nat) (c : Char) (sign : Sign) :
    List Char → Except Fault.Located (Lexeme × List Char)
  | [] => .error ⟨i + 1, .unexpected none (some c)⟩
  | d :: cs =>
    if d = c then .ok (.sign sign, cs) else .error ⟨i + 1, .unexpected (some d) (some c)⟩

/-- What follows a `!`. -/
def afterBang (i : Nat) : List Char → Except Fault.Located (Lexeme × List Char)
  | [] => .error ⟨i + 1, .unexpected none none⟩
  | d :: cs => if d = '(' then .ok (.bang, d :: cs) else second i '=' .notEqual (d :: cs)

/-- What follows a `$`. -/
def afterDollar (i : Nat) (cs : List Char) : Except Fault.Located (Lexeme × List Char) :=
  let name := cs.takeWhile Name.isChar
  let rest := cs.dropWhile Name.isChar
  match rest.head?.filter (!endsName ·) with
  | some c => .error ⟨i + 1 + name.length, .invalidNameChar c⟩
  | none =>
    if name.isEmpty then .error ⟨i, .emptyName⟩ else .ok (.reference (String.ofList name), rest)

/-- What follows an opening quote. -/
def afterQuote (i : Nat) (q : Char) (cs : List Char) : Except Fault.Located (Lexeme × List Char) :=
  match Literal.body q cs with
  | none => .error ⟨i, .unterminated⟩
  | some (text, rest) => .ok (.literal q (String.ofList text), rest)

/-- The lexeme that begins with `c` at index `i`, when `cs` are the characters after `c`, and the
characters after the lexeme. -/
def lexeme (i : Nat) (c : Char) (cs : List Char) : Except Fault.Located (Lexeme × List Char) :=
  if c = '(' then .ok (.opening, cs)
  else if c = ')' then .ok (.closing, cs)
  else if c = '!' then afterBang i cs
  else if c = '=' then second i '=' .equal cs
  else if c = '&' then second i '&' .and cs
  else if c = '|' then second i '|' .or cs
  else if c = '^' then .ok (.sign .xor, cs)
  else if c = '$' then afterDollar i cs
  else if c = '\'' ∨ c = '"' then afterQuote i c cs
  else .error ⟨i, .unexpected (some c) none⟩

section Progress

variable {i : Nat} {c : Char} {sign : Sign} {l : Lexeme} {cs rest : List Char}

theorem length_le_of_second (h : second i c sign cs = .ok (l, rest)) :
    rest.length ≤ cs.length := by
  cases cs with
  | nil => simp [second] at h
  | cons d cs =>
    simp only [second] at h
    split at h
    · simp only [Except.ok.injEq, Prod.mk.injEq] at h
      simp [← h.2]
    · simp at h

theorem length_le_of_afterBang (h : afterBang i cs = .ok (l, rest)) :
    rest.length ≤ cs.length := by
  cases cs with
  | nil => simp [afterBang] at h
  | cons d cs =>
    simp only [afterBang] at h
    split at h
    · simp only [Except.ok.injEq, Prod.mk.injEq] at h
      simp [← h.2]
    · exact length_le_of_second h

theorem length_le_of_afterDollar (h : afterDollar i cs = .ok (l, rest)) :
    rest.length ≤ cs.length := by
  simp only [afterDollar] at h
  split at h
  · simp at h
  · split at h
    · simp at h
    · simp only [Except.ok.injEq, Prod.mk.injEq] at h
      rw [← h.2]
      exact (List.dropWhile_sublist _).length_le

theorem length_le_of_afterQuote (h : afterQuote i c cs = .ok (l, rest)) :
    rest.length ≤ cs.length := by
  simp only [afterQuote] at h
  split at h
  · simp at h
  · rename_i text r hb
    simp only [Except.ok.injEq, Prod.mk.injEq] at h
    rw [← h.2]
    exact Nat.le_of_lt (Literal.length_lt_of_body hb)

theorem length_le_of_lexeme (h : lexeme i c cs = .ok (l, rest)) : rest.length ≤ cs.length := by
  unfold lexeme at h
  repeat' split at h
  · simp only [Except.ok.injEq, Prod.mk.injEq] at h; simp [h.2]
  · simp only [Except.ok.injEq, Prod.mk.injEq] at h; simp [h.2]
  · exact length_le_of_afterBang h
  · exact length_le_of_second h
  · exact length_le_of_second h
  · exact length_le_of_second h
  · simp only [Except.ok.injEq, Prod.mk.injEq] at h; simp [h.2]
  · exact length_le_of_afterDollar h
  · exact length_le_of_afterQuote h
  · simp at h

end Progress

/-- The tokens of a text, and the fault at which the text stops having tokens, if it does. -/
structure Scan where
  tokens : List Token
  fault : Option Fault.Located
deriving DecidableEq, Repr

namespace Scan

/-- Puts a token in front. -/
def cons (t : Token) (s : Scan) : Scan := ⟨t :: s.tokens, s.fault⟩

/-- The tokens of `cs`, which begins at index `i`. -/
def run (i : Nat) : List Char → Scan
  | [] => ⟨[], none⟩
  | c :: cs =>
    if Text.isBlank c then run (i + 1) cs
    else match _h : lexeme i c cs with
      | .error e => ⟨[], some e⟩
      | .ok (l, rest) => cons ⟨i, l⟩ (run (i + 1 + (cs.length - rest.length)) rest)
termination_by cs => cs.length
decreasing_by
  · simp
  · have := length_le_of_lexeme _h
    simp only [List.length_cons]; omega

end Scan

end Scaffold.Stack
