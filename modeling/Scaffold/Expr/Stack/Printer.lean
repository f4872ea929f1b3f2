import Scaffold.Expr.Stack.Token
import Scaffold.Expr.Unwritable

/-!
# Writing the stack syntax

Operands of connectives and negations are parenthesised, operands of comparisons are not; a tree
that the syntax cannot carry is refused.
-/

namespace Scaffold.Stack

/-- A literal in double quotes. A final backslash would escape the closing quote. -/
def printLiteral (text : String) : Except Unwritable String :=
  if text.toList.getLast? = some '\\' then .error (.trailingBackslash text)
  else .ok (String.ofList ('"' :: (Literal.escape '"' text.toList ++ ['"'])))

def printLeaf : Leaf → Except Unwritable String
  | .literal text => printLiteral text
  | .reference name =>
    if Name.isWritable name then .ok ("$" ++ name) else .error (.badName name)
  | .truth _ => .error (.onlyBraced "BooleanLiteral")
  | .array _ => .error (.onlyBraced "ArrayLiteral")

/-- The canonical text of a tree. -/
def print : Expr → Except Unwritable String
  | .leaf l => printLeaf l
  | .not operand => do
    let text ← print operand
    return "!(" ++ text ++ ")"
  | .comparison op left right => do
    if op = .contains then throw .containsOnlyBraced
    let l ← print left
    let r ← print right
    return l ++ " " ++ op.symbol ++ " " ++ r
  | .condition op left right => do
    if left.isLeaf || right.isLeaf then throw (.leafOperand op)
    let l ← print left
    let r ← print right
    return "(" ++ l ++ ") " ++ op.symbol ++ " (" ++ r ++ ")"
  | .foreign kind => .error (.onlyBraced kind)

end Scaffold.Stack
