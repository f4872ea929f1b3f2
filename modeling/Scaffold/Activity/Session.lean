import Scaffold.Activity.Log
import Scaffold.Expr.Dialect

/-!
# Sessions

A session holds bindings that change over time and the log of the decisions made with them. Each
action is answered from the bindings of its moment; only decisions about nodes reach the log.
-/

namespace Scaffold.Activity

structure Session where
  bindings : Bindings
  log : Log := {}

/-- What can be asked of a session. -/
inductive Action
  | set (name : String) (datum : Datum)
  | unset (name : String)
  | decide (node : Descriptor.Node)
  | evaluate (dialect : Dialect) (text : String)
  | evaluateTree (e : Expr)
  | satisfy (dialect : Dialect) (text : String)
  | satisfyTree (e : Expr)
  | report

/-- What a session answers. -/
inductive Outcome
  | size (n : Nat)
  | decision (d : Except ConditionError Bool)
  | value (v : Except ConditionError Value)
  | report (l : Log)

namespace Session

/-- The value of an expression. -/
def evaluateTree (s : Session) (e : Expr) : Except ConditionError Value :=
  (e.eval s.bindings).mapError .failed

/-- The value of an expression text. -/
def evaluate (s : Session) (d : Dialect) (text : String) : Except ConditionError Value := do
  s.evaluateTree (← (d.parse text).mapError .rejected)

/-- The truth value of a condition. -/
def satisfyTree (s : Session) (e : Expr) : Except ConditionError Bool :=
  (e.holds s.bindings).mapError .failed

/-- The truth value of a condition text. -/
def satisfy (s : Session) (d : Dialect) (text : String) : Except ConditionError Bool := do
  s.satisfyTree (← (d.parse text).mapError .rejected)

/-- One action. -/
def perform (s : Session) : Action → Outcome × Session
  | .set name datum =>
    let b := s.bindings.set name datum
    (.size b.length, { s with bindings := b })
  | .unset name =>
    let b := s.bindings.without name
    (.size b.length, { s with bindings := b })
  | .decide node =>
    let (d, log) := s.log.decide s.bindings node
    (.decision d, { s with log })
  | .evaluate dialect text => (.value (s.evaluate dialect text), s)
  | .evaluateTree e => (.value (s.evaluateTree e), s)
  | .satisfy dialect text => (.decision (s.satisfy dialect text), s)
  | .satisfyTree e => (.decision (s.satisfyTree e), s)
  | .report => (.report s.log, s)

/-- Actions in order, with their answers. -/
def run (s : Session) : List Action → List Outcome × Session
  | [] => ([], s)
  | a :: as =>
    let (o, s) := s.perform a
    let (os, s) := s.run as
    (o :: os, s)

end Session

end Scaffold.Activity
