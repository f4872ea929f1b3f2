/-!
# Expressions

The trees of the condition language. A leaf is a text, a variable, a truth value or an array of
texts; the composite nodes negate a condition, join two conditions, or compare two values. Nothing
here forces operands into a shape: the two syntaxes each accept the trees they can write.
-/

namespace Scaffold

/-- The operators that join two conditions. -/
inductive Connective
  | and
  | or
  | xor
  | is
  | isNot
deriving DecidableEq, Repr

/-- The operators that compare two values. -/
inductive Comparison
  | equal
  | notEqual
  | contains
deriving DecidableEq, Repr

/-- All operators. `is` and `equal` share a symbol, as do `isNot` and `notEqual`; the operands tell
them apart. -/
inductive Operator
  | connective (op : Connective)
  | comparison (op : Comparison)
  | not
deriving DecidableEq, Repr

namespace Connective

def symbol : Connective → String
  | and => "&&"
  | or => "||"
  | xor => "^"
  | is => "=="
  | isNot => "!="

/-- The truth table. -/
def apply : Connective → Bool → Bool → Bool
  | and, a, b => a && b
  | or, a, b => a || b
  | xor, a, b => (a || b) && !(a && b)
  | is, a, b => a == b
  | isNot, a, b => a != b

end Connective

namespace Comparison

def symbol : Comparison → String
  | equal => "=="
  | notEqual => "!="
  | contains => "contains"

end Comparison

namespace Operator

def symbol : Operator → String
  | connective op => op.symbol
  | comparison op => op.symbol
  | not => "!"

/-- The name under which an operator is listed. -/
def name : Operator → String
  | connective .and => "AND"
  | connective .or => "OR"
  | connective .xor => "XOR"
  | connective .is => "IS"
  | connective .isNot => "IS_NOT"
  | comparison .equal => "EQUAL"
  | comparison .notEqual => "NOT_EQUAL"
  | comparison .contains => "CONTAINS"
  | not => "NOT"

/-- Every operator once. -/
def all : List Operator :=
  [connective .and, connective .or, connective .xor, connective .is, connective .isNot,
    comparison .equal, comparison .notEqual, comparison .contains, not]

/-- The operator listed under a name. -/
def ofName? (name : String) : Option Operator := all.find? (·.name == name)

end Operator

/-- Operands that hold a value of their own. -/
inductive Leaf
  | literal (text : String)
  | reference (name : String)
  | truth (value : Bool)
  | array (items : List String)
deriving DecidableEq, Repr

/-- Expression trees. `foreign` stands for a node of some other kind, known only by that kind's
name: no syntax writes it and it has no value. -/
inductive Expr
  | leaf (l : Leaf)
  | not (operand : Expr)
  | condition (op : Connective) (left right : Expr)
  | comparison (op : Comparison) (left right : Expr)
  | foreign (kind : String)
deriving DecidableEq, Repr

namespace Expr

/-- A leaf stands for a value; every other tree is a condition. -/
def isLeaf : Expr → Bool
  | leaf _ => true
  | _ => false

/-- An operator given to a node that cannot carry it. -/
inductive Misfit
  | notConnective (op : Operator)
  | notComparison (op : Operator)
deriving DecidableEq, Repr

namespace Misfit

def message : Misfit → String
  | notConnective op => s!"Not a condition operator: {op.name}"
  | notComparison op => s!"Not a value operator: {op.name}"

end Misfit

/-- Joins two trees by an operator that has to be a connective. -/
def condition? (op : Operator) (left right : Expr) : Except Misfit Expr :=
  match op with
  | .connective op => .ok (condition op left right)
  | op => .error (.notConnective op)

/-- Compares two trees by an operator that has to be a comparison. -/
def comparison? (op : Operator) (left right : Expr) : Except Misfit Expr :=
  match op with
  | .comparison op => .ok (comparison op left right)
  | op => .error (.notComparison op)

end Expr

end Scaffold
