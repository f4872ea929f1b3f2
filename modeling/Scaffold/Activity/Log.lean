import Scaffold.Activity.Decision
import Scaffold.Plain.Json

/-!
# The log of decisions

An entry records one decision about a node: what the node is, its conditions, and whether it was
found active, was skipped, or could not be decided. A decision that breaks off for another reason
than an error of its conditions leaves an entry without an answer and without an error. A log holds
entries in the order in which they were made.
-/

namespace Scaffold.Activity

inductive Status
  | active
  | skipped
  | failed
deriving DecidableEq, Repr

namespace Status

def name : Status → String
  | active => "active"
  | skipped => "skipped"
  | failed => "failed"

/-- The mark of a status in a summary. -/
def icon : Status → String
  | active => "✅"
  | skipped => "⏭️"
  | failed => "❌"

end Status

structure Entry where
  nodeKind : String
  label : Option String := none
  onlyIf : Option String := none
  exceptIf : Option String := none
  active : Option Bool := none
  error : Option String := none
  duration : Option Number := none
  timestamp : Number := .integer 0
deriving DecidableEq, Repr

namespace Entry

/-- The text of an option, unless it is empty. -/
def stated (s : Option String) : Option String := s.filter (· ≠ "")

def status (e : Entry) : Status :=
  if (stated e.error).isSome then .failed
  else if e.active = some true then .active
  else .skipped

/-- An entry of an object that is left out when there is nothing to show. -/
def optional (key : String) (p : Option Plain) : List (String × Plain) :=
  match p with
  | some p => [(key, p)]
  | none => []

/-- The entry as plain data; durations are shown in thousandths. -/
def toPlain (e : Entry) : Plain :=
  .object ([("node_kind", .text e.nodeKind), ("status", .text e.status.name),
    ("timestamp", .number e.timestamp)] ++
    optional "label" ((stated e.label).map .text) ++
    optional "if" (e.onlyIf.map .text) ++
    optional "unless" (e.exceptIf.map .text) ++
    optional "active" (e.active.map .bool) ++
    optional "duration_ms" (e.duration.map (.number ·.toThousandths)) ++
    optional "error" ((stated e.error).map .text))

/-- The lines of an entry in a summary. -/
def lines (e : Entry) : List String :=
  let name := match stated e.label with
    | some label => e.nodeKind ++ " " ++ label
    | none => e.nodeKind
  let conditions := (e.onlyIf.map ("if " ++ ·)).toList ++ (e.exceptIf.map ("unless " ++ ·)).toList
  let suffix := if conditions.isEmpty then "" else " [" ++ String.intercalate "; " conditions ++ "]"
  let head := "  " ++ e.status.icon ++ " " ++ name ++ suffix
  head :: ((stated e.error).map ("     └─ " ++ ·)).toList

/-- The entry of a decision about a node. -/
def ofDecision (n : Descriptor.Node) (outcome : Except ConditionError Bool) : Entry :=
  { nodeKind := n.kind.name
    label := n.label
    onlyIf := n.onlyIf
    exceptIf := n.exceptIf
    active := outcome.toOption
    error := match outcome with
      | .ok _ => none
      | .error e => if e.isReported then some e.message else none }

end Entry

structure Log where
  entries : List Entry := []
deriving DecidableEq, Repr

namespace Log

def record (l : Log) (e : Entry) : Log := ⟨l.entries ++ [e]⟩

/-- The number of entries with a status. -/
def count (l : Log) (s : Status) : Nat := l.entries.countP (·.status == s)

def skipped (l : Log) : List Entry := l.entries.filter (·.status == .skipped)

def toPlain (l : Log) : Plain :=
  .object [("entries", .list (l.entries.map Entry.toPlain)),
    ("active", .int (l.count .active)),
    ("skipped", .int (l.count .skipped)),
    ("failed", .int (l.count .failed))]

/-- The log for readers: the counts, a rule, and the lines of the entries. -/
def summary (l : Log) : String :=
  let head := s!"Conditions: {l.count .active} active, {l.count .skipped} skipped, " ++
    s!"{l.count .failed} failed"
  let rule := String.ofList (List.replicate 50 '─')
  String.intercalate "\n" (head :: rule :: l.entries.flatMap Entry.lines)

/-- Decides about a node and records the decision. -/
def decide (l : Log) (b : Bindings) (n : Descriptor.Node) : Except ConditionError Bool × Log :=
  let outcome := n.isActive b
  (outcome, l.record (Entry.ofDecision n outcome))

end Log

end Scaffold.Activity
