import Scaffold.Descriptor.ReadError
import Scaffold.Text.CommaList

/-!
# Values of attributes and texts

Attributes and contents are texts; the schema says what each becomes: a text, a truth value, an
order, or a comma list.
-/

namespace Scaffold.Descriptor

open Markup (Attributes)

/-- Where a value stands: the element and its path. -/
structure Site where
  element : String
  path : String

/-- The decimal digits of an order and whether a minus stands before them. -/
def orderDigits? (cs : List Char) : Option (Bool × List Char) :=
  let (negative, digits) := match cs with
    | '-' :: ds => (true, ds)
    | '+' :: ds => (false, ds)
    | ds => (false, ds)
  if digits.isEmpty || !digits.all Char.isDigit then none else some (negative, digits)

/-- The number that digits stand for. -/
def digitsValue (ds : List Char) : Nat :=
  ds.foldl (fun n d => 10 * n + (d.toNat - '0'.toNat)) 0

/-- An order: decimal digits with an optional sign and nothing else. -/
def parseOrder (site : Site) (value : String) : Except ReadFailure Int :=
  match orderDigits? value.toList with
  | none => .error (.document (.invalidOrder value site.element site.path))
  | some (negative, digits) =>
    if Number.maxDigits < digits.length then .error (.orderDigits digits.length)
    else
      let n : Int := digitsValue digits
      .ok (if negative then -n else n)

/-- A truth value: `true` or `false` in any case, with blanks around it allowed. -/
def parseFlag (site : Site) (name value : String) : Except ReadFailure Bool :=
  match (Text.trimmed value).map Char.toLower with
  | "true" => .ok true
  | "false" => .ok false
  | _ => .error (.document (.invalidValue name value site.element site.path))

/-- The value of an attribute; a missing value is as good as a missing attribute. -/
def attribute? (attributes : Attributes) (name : String) : Option String :=
  (attributes.lookup name).bind id

namespace Declaration

/-- The contents of a field that the attribute or content `value`, called `name`, fills. -/
def convert (d : Declaration) (site : Site) (name value : String) : Except ReadFailure Scalar :=
  match d.shape with
  | .order => do return .order (← parseOrder site value)
  | .flag => do return .flag (← parseFlag site name value)
  | .texts => .ok (.texts (Text.CommaList.items value))
  | _ => .ok (.text (some value))

/-- The contents of a field that attributes fill, if they do. -/
def ofAttributes (d : Declaration) (site : Site) (attributes : Attributes) :
    Except ReadFailure (Option (Field × Scalar)) :=
  match d.origin with
  | .allAttributes => .ok (some (d.field, .attributes attributes))
  | .ownAttribute =>
    match attribute? attributes d.field.attributeName with
    | none => .ok none
    | some value => do
      return some (d.field, ← d.convert site d.field.attributeName value)
  | _ => .ok none

/-- The contents of a field that the text of the element fills, if it is not empty. -/
def ofContent (d : Declaration) (site : Site) (text : String) :
    Except ReadFailure (Option (Field × Scalar)) :=
  if d.origin = .content ∧ text ≠ "" then do
    return some (d.field, ← d.convert site site.element text)
  else .ok none

end Declaration

/-- The first required attribute that is missing. -/
def Kind.missing? (kind : Kind) (attributes : Attributes) : Option Field :=
  (kind.schema.find? fun d =>
    d.shape == .requiredText && (attribute? attributes d.field.attributeName).isNone).map (·.field)

/-- The fields of a node that its attributes fill. -/
def Kind.readAttributes (kind : Kind) (site : Site) (attributes : Attributes) :
    Except ReadFailure (List (Field × Scalar)) :=
  match kind.missing? attributes with
  | some f => .error (.document (.missingAttribute f.attributeName site.element site.path))
  | none => do
    return (← kind.schema.mapM (·.ofAttributes site attributes)).filterMap id

/-- The fields of a node that its text fills. -/
def Kind.readContent (kind : Kind) (site : Site) (text : String) :
    Except ReadFailure (List (Field × Scalar)) := do
  return (← kind.schema.mapM (·.ofContent site text)).filterMap id

end Scaffold.Descriptor
