import Scaffold.Expr.Basic

/-!
# Syntax errors

A `Fault` is a cause for which expression text is rejected; a `SyntaxError` adds the text and the
index, in characters, at which the cause was found.
-/

namespace Scaffold

/-- A side of a binary operator. -/
inductive Side
  | left
  | right
deriving DecidableEq, Repr

def Side.name : Side → String
  | left => "left"
  | right => "right"

/-- Why expression text is rejected. -/
inductive Fault
  /-- A character that cannot stand here, or the end of the text; `expected` is what would fit. -/
  | unexpected (found : Option Char) (expected : Option Char)
  /-- A token that cannot stand here. -/
  | unexpectedToken (lexeme : String)
  /-- A parenthesis without a partner. -/
  | unmatched (paren : Char)
  /-- A character that no variable name holds. -/
  | invalidNameChar (found : Char)
  /-- A variable without a name. -/
  | emptyName
  /-- A literal that is never closed. -/
  | unterminated
  /-- An operand whose shape does not suit its operator. -/
  | invalidOperand (op : Operator) (side : Side)
  /-- An operator with nothing on its left, or no operand at all. -/
  | noLeftOperand (op : Option Operator)
  /-- An operator with nothing on its right. -/
  | noRightOperand (op : Operator)
  /-- An operator where the right operand of another one is due. -/
  | doubleOperator (op : Operator)
  /-- Two operands with no operator between them. -/
  | invalidState
deriving DecidableEq, Repr

namespace Fault

def message : Fault → String
  | unexpected found expected =>
    let text := match found with
      | none => "Unexpected end of expression"
      | some c => s!"Invalid '{c}' character found"
    match expected with
    | none => text
    | some e => s!"{text}, expecting '{e}'"
  | unexpectedToken lexeme => s!"Unexpected token '{lexeme}'"
  | unmatched paren => s!"Unmatched '{paren}' found"
  | invalidNameChar found => s!"Invalid '{found}' character found in variable name"
  | emptyName => "Invalid empty variable"
  | unterminated => "Unterminated literal starting"
  | invalidOperand op side => s!"Invalid {side.name} operand found for operator '{op.symbol}'"
  | noLeftOperand none => "No operand found"
  | noLeftOperand (some op) => s!"No left operand found for operator '{op.symbol}'"
  | noRightOperand op => s!"No right operand found for operator '{op.symbol}'"
  | doubleOperator op => s!"Unexpected operator '{op.symbol}' after another operator"
  | invalidState => "Cannot parse, invalid state"

end Fault

/-- A fault and its place in a text. -/
structure SyntaxError where
  text : String
  index : Nat
  fault : Fault
deriving DecidableEq, Repr

def SyntaxError.message (e : SyntaxError) : String := s!"{e.fault.message} at index {e.index}"

/-- A fault and its index, before the text is attached. -/
structure Fault.Located where
  index : Nat
  fault : Fault
deriving DecidableEq, Repr

/-- The located fault as an error of `text`. -/
def Fault.Located.within (text : String) (e : Fault.Located) : SyntaxError :=
  ⟨text, e.index, e.fault⟩

end Scaffold
