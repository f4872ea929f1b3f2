import Scaffold.Command.Arguments
import Scaffold.Command.Variables
import Scaffold.Descriptor.Dump
import Scaffold.Descriptor.Source
import Scaffold.Descriptor.Validation
import Scaffold.Eval.Basic
import Scaffold.Plain.Json
import Scaffold.Plain.Yaml
import Scaffold.Text.Encoding

/-!
# Commands

`expr` evaluates or prints an expression, `read` dumps a descriptor, and `check` reports the
conditions of a descriptor that are no expressions. A run of the program is a function of its
arguments and of the files that it finds.
-/

namespace Scaffold.Command

open Descriptor (Node ReadFailure Feed Source)

/-- The format of a dump. -/
inductive Format
  | yaml
  | json
deriving DecidableEq, Repr

/-- What the arguments ask for. -/
inductive Request
  | expr (dialect : Dialect) (printOnly : Bool) (text : String) (path : Option String)
    (definitions : List (Option String))
  | read (format : Format) (file : String)
  | check (file : String)
  /-- There is no command. -/
  | nothing
deriving DecidableEq, Repr

/-- What a run leaves: the exit code and what it writes to the two outputs. -/
structure Outcome where
  exit : Nat
  out : String := ""
  err : String := ""
deriving DecidableEq, Repr

/-- What no run reports as an error of its own. -/
inductive Crash
  | unwritable (u : Unwritable)
  | reading (e : ReadFailure)
  | loading (e : LoadError)
  /-- An evaluation breaks off for another reason than an error of the expression. -/
  | evaluating (message : String)
  /-- The result is a text that the output has no bytes for. -/
  | printing (text : Text.Broken)
deriving DecidableEq, Repr

def Crash.message : Crash → String
  | unwritable u => u.message
  | reading e => e.message
  | loading e => e.message
  | evaluating message => message
  | printing text => (Text.utf8Fault? text.parts).getD ""

namespace Outcome

/-- A result on a line of its own. -/
def line (text : String) : Outcome := { exit := 0, out := text ++ "\n" }

/-- An error message. -/
def error (text : String) : Outcome := { exit := 1, err := s!"Error: {text}\n" }

def ofStop : Stop → Outcome
  | .help form => { exit := 0, out := form.help }
  | .misuse form m => { exit := 2, err := form.usage ++ s!"{form.program}: error: {m.message}\n" }

end Outcome

namespace Request

/-- The request of a command whose arguments are taken. -/
def ofTaken (command : String) (t : Taken) : Request :=
  match command with
  | "expr" =>
    expr (if t.has "--braced" then .braced else .stack) (t.has "--print") t.argument
      ((t.valuesOf "--vars").getLast?.join.filter (· ≠ "")) (t.valuesOf "-D")
  | "read" =>
    read (if (t.valuesOf "--format").getLast?.join = some "json" then .json else .yaml) t.argument
  | "check" => check t.argument
  | _ => nothing

/-- The form of a command. -/
def form (command : String) : Form :=
  match command with
  | "expr" => exprForm
  | "read" => readForm
  | _ => checkForm

/-- The request that arguments make. -/
def ofArguments (arguments : List String) : Except Stop Request := do
  let t ← Taken.ofArguments mainForm arguments
  let (request, surplus) ← match t.words with
    | some (command :: rest) =>
      let inner ← Taken.ofArguments (form command) rest
      pure (ofTaken command inner, t.surplus ++ inner.surplus)
    | _ => pure (nothing, t.surplus)
  if surplus.isEmpty then return request
  else throw (.misuse mainForm (.unrecognized surplus))

end Request

/-- A value as a result, with escapes in place of surrogates. -/
def shownValue : Value → String
  | .truth true => "true"
  | .truth false => "false"
  | .text s => s
  | .array items => Plain.toJson (.list (items.map .text))
  | .brokenText t => Text.escapedParts t.parts
  | .brokenArray l =>
    Plain.Json.enclose .line 0 "[" "]" (l.items.map Plain.Json.stringOfParts)

/-- Ends with a value as the result. -/
def printValue : Value → Except Crash Outcome
  | .brokenText t => .error (.printing t)
  | v => .ok (.line (shownValue v))

/-- Evaluates an expression over variables. -/
def evaluate (b : Except LoadError Bindings) (e : Expr) : Except Crash Outcome :=
  match b with
  | .error e => if e.isReported then .ok (.error e.message) else .error (.loading e)
  | .ok b =>
    match e.eval b with
    | .error e => if e.isReported then .ok (.error e.message) else .error (.evaluating e.message)
    | .ok v => printValue v

/-- Evaluates or prints the expression in a text. -/
def runExpr (d : Dialect) (printOnly : Bool) (text : String) (b : Except LoadError Bindings) :
    Except Crash Outcome :=
  match d.parse text with
  | .error e => .ok (.error e.message)
  | .ok e =>
    if printOnly then ((d.print e).mapError .unwritable).map .line else evaluate b e

/-- Goes on with the descriptor in a file, unless it cannot be read. -/
def withDescriptor (opener : File.Opener) (file : String) (go : Node → Outcome) :
    Except Crash Outcome :=
  match (Feed.ofSource opener (.ofText file)).read none with
  | .ok n => .ok (go n)
  | .error (.document e) => .ok (.error e.message)
  | .error (.unopened path .missing) => .ok (.error s!"file not found: {path}")
  | .error e => .error (.reading e)

/-- The dump of a descriptor. -/
def dump (format : Format) (n : Node) : Outcome :=
  match format with
  | .yaml => { exit := 0, out := n.toPlain.toYaml }
  | .json => .line n.toPlain.toJsonBlock

/-- The report on the conditions of a descriptor. -/
def report (n : Node) : Outcome :=
  match n.validate .stack with
  | [] =>
    let steps := (n.children .steps).length
    let inputs := (n.children .inputs).length
    .line s!"Valid: {steps} steps, {inputs} input blocks"
  | es => { exit := 1, err := String.join (es.map fun e => s!"  {e.message}\n") }

/-- The outcome of a request. -/
def Request.run (opener : File.Opener) : Request → Except Crash Outcome
  | .expr d printOnly text path definitions =>
    runExpr d printOnly text (loadBindings d opener path definitions)
  | .read format file => withDescriptor opener file (dump format)
  | .check file => withDescriptor opener file report
  | .nothing => .ok { exit := 1, out := mainForm.help }

/-- The outcome of a run with some arguments. -/
def run (opener : File.Opener) (arguments : List String) : Except Crash Outcome :=
  match Request.ofArguments arguments with
  | .error stop => .ok (.ofStop stop)
  | .ok request => request.run opener

end Scaffold.Command
