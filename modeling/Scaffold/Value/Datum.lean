import Scaffold.Plain.Shown
import Scaffold.Value.Basic

/-!
# Data bound to variables

A variable may be bound to plain data, to a fixed sequence, to a ready value, to the name of another
variable, or to something that is none of these. `Datum.read` says which data have a value: truth
values, texts, and lists or sequences of texts. Null stands for no value at all.
-/

namespace Scaffold

inductive Datum
  | plain (p : Plain)
  | tuple (items : List Plain)
  | value (v : Value)
  | sameAs (name : String)
  /-- Something of another type, as messages show it if they can. -/
  | other (typeName : String) (shown : Option String)
deriving Repr

/-- What a datum means to the evaluator. -/
inductive Reading
  | missing
  | value (v : Value)
  | sameAs (name : String)
deriving DecidableEq, Repr

namespace Datum

/-- The items of a sequence, when all of them are texts. -/
def texts? : List Plain → Option (List String)
  | [] => some []
  | .text s :: ps => (texts? ps).map (s :: ·)
  | _ :: _ => none

/-- The types of data that have no meaning. -/
inductive Unsupported
  | integer
  | double
  | list
  | object
  | tuple
  | other (typeName : String)
deriving DecidableEq, Repr

namespace Unsupported

/-- The name of a type in messages. -/
def typeName : Unsupported → String
  | integer => "int"
  | double => "float"
  | list => "list"
  | object => "dict"
  | tuple => "tuple"
  | other typeName => typeName

def message (u : Unsupported) : String := s!"Unsupported value type: {u.typeName}"

end Unsupported

/-- A sequence of texts, else the type that is not supported. -/
def readTexts (u : Unsupported) (items : List Plain) : Except Unsupported Reading :=
  match texts? items with
  | some ts => .ok (.value (.array ts))
  | none => .error u

/-- The meaning of a datum, if it has one. -/
def read : Datum → Except Unsupported Reading
  | plain .null => .ok .missing
  | plain (.bool b) => .ok (.value (.truth b))
  | plain (.text s) => .ok (.value (.text s))
  | plain (.list items) => readTexts .list items
  | plain (.number (.integer _)) => .error .integer
  | plain (.number (.double _)) => .error .double
  | plain (.object _) => .error .object
  | tuple items => readTexts .tuple items
  | value v => .ok (.value v)
  | sameAs name => .ok (.sameAs name)
  | other typeName _ => .error (.other typeName)

/-- The text of a datum inside a message. -/
def shown : Datum → String
  | plain p => p.shown
  | tuple items => Plain.shownTuple items
  | value (.truth b) => Plain.shown (.bool b)
  | value (.text s) => Text.quoted s
  | value (.array items) => Plain.shown (.list (items.map .text))
  | value (.brokenText t) => Text.quotedParts t.parts
  | value (.brokenArray l) =>
    "[" ++ String.intercalate ", " (l.items.map Text.quotedParts) ++ "]"
  | sameAs name => name
  | other _ text => text.getD ""

/-- Can a message show a datum? -/
def isShowable : Datum → Bool
  | plain p => p.isShowable
  | tuple items => Plain.areShowable items
  | value _ => true
  | sameAs _ => true
  | other _ text => text.isSome

end Datum

/-- Variables and their data, each name at most once in practice; the first binding of a name
counts. -/
abbrev Bindings := List (String × Datum)

namespace Bindings

/-- The datum of a variable. -/
def find (b : Bindings) (name : String) : Datum := (b.lookup name).getD (.plain .null)

/-- The bindings of all other variables. -/
def without (b : Bindings) (name : String) : Bindings := b.filter (·.1 != name)

/-- Binds a variable: in place when it is bound already, else at the end. -/
def set (b : Bindings) (name : String) (d : Datum) : Bindings :=
  if b.any (·.1 == name) then b.map fun e => if e.1 == name then (name, d) else e
  else b ++ [(name, d)]

theorem length_without_lt {b : Bindings} {name : String} (h : (b.lookup name).isSome) :
    (b.without name).length < b.length := by
  induction b with
  | nil => simp at h
  | cons e b ih =>
    obtain ⟨k, d⟩ := e
    simp only [List.lookup_cons] at h
    by_cases hk : name = k
    · subst hk
      have := List.length_filter_le (fun e : String × Datum => e.1 != name) b
      simp only [without, List.filter_cons, bne_self_eq_false, Bool.false_eq_true, if_false,
        List.length_cons]
      omega
    · have hb : (name == k) = false := by simpa using hk
      rw [hb] at h
      have := ih h
      have hk' : (k != name) = true := by simpa using Ne.symm hk
      simp only [without, List.filter_cons, hk', if_true, List.length_cons] at this ⊢
      omega

end Bindings

end Scaffold
