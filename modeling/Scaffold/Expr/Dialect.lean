import Scaffold.Expr.Stack.Parser
import Scaffold.Expr.Stack.Printer
import Scaffold.Expr.Braced.Parser
import Scaffold.Expr.Braced.Printer

/-!
# The two syntaxes of expressions

The stack syntax has `$name`, escapes in literals and one level of operators; the braced syntax has
`${name}`, truth values, arrays, `contains` and precedence.
-/

namespace Scaffold

inductive Dialect
  | stack
  | braced
deriving DecidableEq, Repr

namespace Dialect

def parse : Dialect → String → Except SyntaxError Expr
  | stack => Stack.parse
  | braced => Braced.parse

def print : Dialect → Expr → Except Unwritable String
  | stack => Stack.print
  | braced => Braced.print

end Dialect

end Scaffold
