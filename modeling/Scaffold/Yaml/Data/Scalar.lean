import Scaffold.Text.Encoding
import Scaffold.Text.Lower
import Scaffold.Yaml.Data.Basic
import Scaffold.Yaml.Fault
import Scaffold.Yaml.Node

/-!
# Data of scalars

What the text of a scalar stands for when its tag names a kind of data. The text need not be one that
would be of this kind by itself, and then there may be nothing that it stands for.
-/

namespace Scaffold.Yaml.Data

/-- The kinds of data that scalars stand for. -/
inductive ScalarKind
  | null
  | bool
  | integer
  | real
  | binary
  | timestamp
  | text
deriving DecidableEq, Repr

def readBool (text : Text.Stored) : Except Error Bool :=
  let word : Text.Stored := ⟨Text.lowerFrom [] text.chars⟩
  match word.text?.bind Kind.bool? with
  | some b => .ok b
  | none => .error (.noTruth word)

/-- The integer that a literal in some base stands for. -/
def readLiteral (base : Nat) (cs : List Char) : Except Error Int :=
  let count := (cs.filter Text.isDecimalDigit).length
  match Number.ofLiteral? base cs with
  | none => .error (.noInteger base ⟨cs⟩)
  | some n => if base = 10 ∧ Number.maxDigits < count then .error (.manyDigits count) else .ok n

/-- The integer that a text without a sign of its own stands for. Its first characters tell the
base, and colons divide digits in base sixty. -/
def readUnsigned (cs : List Char) : Except Error Int :=
  match cs with
  | [] => .error .emptyNumber
  | ['0'] => .ok 0
  | '0' :: 'b' :: ds => readLiteral 2 ds
  | '0' :: 'x' :: ds => readLiteral 16 ds
  | '0' :: _ => readLiteral 8 cs
  | _ =>
    if cs.contains ':' then do
      let parts ← (Kind.colonParts cs).mapM (readLiteral 10)
      return parts.foldl (fun n d => n * 60 + d) 0
    else readLiteral 10 cs

/-- The integer that a text stands for. Underscores do not count. -/
def readInteger (text : Text.Stored) : Except Error Int :=
  let cs := text.chars.filter (· ≠ '_')
  if cs.isEmpty then .error .emptyNumber
  else
    let (negative, cs) := Number.splitSign cs
    (readUnsigned cs).map fun n => if negative then -n else n

/-- What a literal of a number stands for. -/
def readRealLiteral (cs : List Char) : Except Error Number.Real :=
  match Number.Real.ofLiteral? cs with
  | some x => .ok x
  | none => .error (.noReal ⟨cs⟩)

/-- The number whose parts in base sixty are `parts`, the last one first. -/
def ofSixties (parts : List Number.Real) : Number.Real :=
  let zero := Number.Real.double (.ofDecimal false 0 0)
  (parts.foldl (fun (sum, base) x => (sum.add (x.scale base), base * 60)) (zero, 1)).1

/-- The number that a text stands for. Underscores and the case of letters do not count. -/
def readReal (text : Text.Stored) : Except Error Number.Real :=
  let cs := Text.lowerFrom [] (text.chars.filter (· ≠ '_'))
  if cs.isEmpty then .error .emptyNumber
  else do
    let (negative, cs) := Number.splitSign cs
    let x ←
      if cs = ".inf".toList then pure (Number.Real.double (.infinite false))
      else if cs = ".nan".toList then pure .undefined
      else if cs.contains ':' then do
        let parts ← (Kind.colonParts cs).mapM readRealLiteral
        pure (ofSixties parts.reverse)
      else readRealLiteral cs
    return if negative then x.neg else x

/-- The bytes that a text at `start` stands for. -/
def readBinary (start : Mark) (text : Text.Stored) : Except Error (List UInt8) :=
  match Text.asciiFault? text.parts with
  | some reason => .error (.fault { cause := .notAscii reason, mark := start })
  | none =>
    (Text.Base64.decode text.chars).mapError fun e =>
      .fault { cause := .notBase64 e, mark := start }

/-- The moment that a text stands for. -/
def readMoment (text : Text.Stored) : Except Error Moment :=
  match text.text?.bind Moment.ofText? with
  | none => .error .noMoment
  | some m => m.check.mapError .moment

/-- What the text of a scalar at `start` stands for. -/
def ScalarKind.read (start : Mark) (s : Text.Stored) : ScalarKind → Except Error Data
  | null => .ok .null
  | bool => (readBool s).map .bool
  | integer => (readInteger s).map .integer
  | real => (readReal s).map .real
  | binary => (readBinary start s).map .bytes
  | timestamp => (readMoment s).map .moment
  | text => .ok (.text s)

end Scaffold.Yaml.Data
