import Scaffold.Activity.Decision
import Scaffold.Descriptor.Address
import Scaffold.Expr.Dialect

/-!
# Checking the conditions of a descriptor

Every `if` and `unless` text of a tree is read in one of the syntaxes; `Node.validate` reports the
texts that are no expressions, in the order of the tree, with the address of their node.
-/

namespace Scaffold.Descriptor

/-- The two conditions of a node. -/
inductive Guard
  | onlyIf
  | exceptIf
deriving DecidableEq, Repr

namespace Guard

/-- The attribute that states the condition. -/
def name : Guard → String
  | onlyIf => "if"
  | exceptIf => "unless"

/-- The text that a node states for a guard. -/
def text? (g : Guard) (n : Node) : Option String :=
  match g with
  | onlyIf => n.onlyIf
  | exceptIf => n.exceptIf

end Guard

/-- A condition that is no expression. -/
structure BadCondition where
  address : Address
  guard : Guard
  cause : SyntaxError
deriving DecidableEq, Repr

def BadCondition.message (e : BadCondition) : String :=
  s!"{e.address.text} [{e.guard.name}]: {e.cause.message}"

/-- The report on one guard of a node. -/
def Guard.check (d : Dialect) (here : Address) (n : Node) (g : Guard) : Option BadCondition :=
  match g.text? n with
  | none => none
  | some text =>
    match d.parse text with
    | .ok _ => none
    | .error e => some ⟨here, g, e⟩

/-- All conditions of a tree that are no expressions. -/
def Node.validate (d : Dialect) (root : Node) : List BadCondition :=
  root.nodes.flatMap fun (here, n) => [Guard.onlyIf, .exceptIf].filterMap (Guard.check d here n)

end Scaffold.Descriptor
