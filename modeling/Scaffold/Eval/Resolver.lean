import Scaffold.Eval.Basic

/-!
# Resolvers

What an evaluation is given to look variables up in: nothing, bindings, or something that cannot
be looked into.
-/

namespace Scaffold

inductive Resolver
  | nothing
  | bindings (b : Bindings)
  | unusable (typeName : String)
deriving Repr

/-- A resolver that is neither bindings nor nothing. -/
structure Resolver.Unusable where
  typeName : String
deriving DecidableEq, Repr

def Resolver.Unusable.message (u : Resolver.Unusable) : String :=
  s!"Resolver must be a callable or a mapping, got {u.typeName}"

/-- The bindings behind a resolver. -/
def Resolver.toBindings : Resolver → Except Resolver.Unusable Bindings
  | nothing => .ok []
  | bindings b => .ok b
  | unusable typeName => .error ⟨typeName⟩

end Scaffold
