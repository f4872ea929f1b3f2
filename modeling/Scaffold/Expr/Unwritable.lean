import Scaffold.Expr.Basic
import Scaffold.Text.Quoted

/-!
# Trees that a syntax cannot write
-/

namespace Scaffold

/-- Why a tree has no text in a syntax. -/
inductive Unwritable
  /-- The closing quote after the literal would be escaped. -/
  | trailingBackslash (text : String)
  /-- No quote is left to enclose the text. -/
  | bothQuotes (text : String)
  | badName (name : String)
  /-- `contains` is missing from the stack syntax. -/
  | containsOnlyBraced
  /-- `^` is missing from the braced syntax. -/
  | xorOnlyStack
  /-- The stack syntax joins conditions only, no values. -/
  | leafOperand (op : Connective)
  /-- A kind of node that the stack syntax lacks. -/
  | onlyBraced (kind : String)
  /-- A kind of node that no syntax has. -/
  | unsupported (kind : String)
deriving DecidableEq, Repr

namespace Unwritable

def message : Unwritable → String
  | trailingBackslash text =>
    s!"Literal ending with a backslash cannot be printed: {Text.quoted text}"
  | bothQuotes text =>
    s!"String with both quote characters cannot be printed: {Text.quoted text}"
  | badName name => s!"Invalid variable name: {Text.quoted name}"
  | containsOnlyBraced => "'contains' is only available in the braced syntax"
  | xorOnlyStack => "'^' is only available in the stack syntax"
  | leafOperand op =>
    s!"Operator '{op.symbol}' needs condition operands in the stack syntax"
  | onlyBraced kind => s!"{kind} is only available in the braced syntax"
  | unsupported kind => s!"Unsupported node: {kind}"

end Unwritable

end Scaffold
