import Scaffold.Expr.Name
import Scaffold.Expr.Unwritable

/-!
# Writing the braced syntax

Composite operands are parenthesised, leaves are not. A string takes single quotes unless it holds
one; there are no escapes, so a string with both quotes has no text.
-/

namespace Scaffold.Braced

/-- A string between the quotes that it does not hold. -/
def printString (text : String) : Except Unwritable String :=
  if !text.toList.contains '\'' then .ok ("'" ++ text ++ "'")
  else if !text.toList.contains '"' then .ok ("\"" ++ text ++ "\"")
  else .error (.bothQuotes text)

def printLeaf : Leaf → Except Unwritable String
  | .literal text => printString text
  | .reference name =>
    if Name.isWritable name then .ok ("$\x7b" ++ name ++ "\x7d") else .error (.badName name)
  | .truth true => .ok "true"
  | .truth false => .ok "false"
  | .array items => do
    let texts ← items.mapM printString
    return "[" ++ String.intercalate ", " texts ++ "]"

/-- Parentheses around the text of a composite operand. -/
def enclose (e : Expr) (text : String) : String := if e.isLeaf then text else "(" ++ text ++ ")"

/-- The canonical text of a tree. -/
def print : Expr → Except Unwritable String
  | .leaf l => printLeaf l
  | .not operand => do
    let text ← print operand
    return "!" ++ enclose operand text
  | .comparison op left right => do
    let l ← print left
    let r ← print right
    return enclose left l ++ " " ++ op.symbol ++ " " ++ enclose right r
  | .condition op left right => do
    if op = .xor then throw .xorOnlyStack
    let l ← print left
    let r ← print right
    return enclose left l ++ " " ++ op.symbol ++ " " ++ enclose right r
  | .foreign kind => .error (.unsupported kind)

end Scaffold.Braced
