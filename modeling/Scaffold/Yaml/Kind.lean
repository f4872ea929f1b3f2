import Scaffold.Text.Hex
import Scaffold.Yaml.Moment

/-!
# Kinds of plain scalars

What a scalar without quotes stands for: a truth value, a number, a date and so on, or just its
text. The forms are those of YAML 1.1.
-/

namespace Scaffold.Yaml

inductive Kind
  | text
  | null
  | bool
  | integer
  | float
  | timestamp
  | merge
  | default
deriving DecidableEq, Repr

namespace Kind

/-- The tag of a kind, after the common beginning. -/
def name : Kind → String
  | text => "str"
  | null => "null"
  | bool => "bool"
  | integer => "int"
  | float => "float"
  | timestamp => "timestamp"
  | merge => "merge"
  | default => "value"

/-- The spellings of a truth value. -/
def bool? : String → Option Bool
  | "yes" => some true
  | "Yes" => some true
  | "YES" => some true
  | "true" => some true
  | "True" => some true
  | "TRUE" => some true
  | "on" => some true
  | "On" => some true
  | "ON" => some true
  | "no" => some false
  | "No" => some false
  | "NO" => some false
  | "false" => some false
  | "False" => some false
  | "FALSE" => some false
  | "off" => some false
  | "Off" => some false
  | "OFF" => some false
  | _ => none

def isNull (s : String) : Bool := ["", "~", "null", "Null", "NULL"].contains s

/-- A digit, or the underscore that may stand among digits. -/
def isDigitOrGap (c : Char) : Bool := c.isDigit || c == '_'

/-- `cs` without a sign at its start. -/
def unsigned : List Char → List Char
  | '+' :: cs => cs
  | '-' :: cs => cs
  | cs => cs

/-- Is this a list of characters of a class, and not empty? -/
def someOf (p : Char → Bool) (cs : List Char) : Bool := !cs.isEmpty && cs.all p

/-- A part of a number in base sixty: one digit, or two of which the first is below six. -/
def isSixty : List Char → Bool
  | [c] => c.isDigit
  | [c, d] => '0' ≤ c && c ≤ '5' && d.isDigit
  | _ => false

/-- The parts of `cs` between colons. -/
def colonParts (cs : List Char) : List (List Char) := cs.splitOn ':'

def isInteger (s : String) : Bool :=
  match unsigned s.toList with
  | ['0'] => true
  | '0' :: 'b' :: cs => someOf (fun c => c == '0' || c == '1' || c == '_') cs
  | '0' :: 'x' :: cs => someOf (fun c => (Text.hexValue? c).isSome || c == '_') cs
  | '0' :: cs => someOf (fun c => ('0' ≤ c && c ≤ '7') || c == '_') cs
  | cs =>
    match colonParts cs with
    | (c :: first) :: parts => c.isDigit && first.all isDigitOrGap && parts.all isSixty
    | _ => false

/-- Nothing, or an exponent with its sign. -/
def isExponent : List Char → Bool
  | [] => true
  | e :: sign :: cs =>
    (e == 'e' || e == 'E') && (sign == '+' || sign == '-') && someOf Char.isDigit cs
  | _ => false

/-- Digits after a point, and perhaps an exponent. -/
def isFraction (cs : List Char) : Bool := isExponent (cs.dropWhile isDigitOrGap)

def isFloat (s : String) : Bool :=
  let cs := s.toList
  let body := unsigned cs
  let point : Bool := match cs with
    | '.' :: c :: rest => c.isDigit && isFraction rest
    | _ => false
  let whole : Bool := match body.span (· ≠ '.') with
    | (c :: first, '.' :: rest) => c.isDigit && first.all isDigitOrGap && isFraction rest
    | _ => false
  let sixty : Bool := match body.span (· ≠ '.') with
    | (digits, '.' :: rest) =>
      rest.all isDigitOrGap &&
        match colonParts digits with
        | (c :: first) :: part :: parts =>
          c.isDigit && first.all isDigitOrGap && (part :: parts).all isSixty
        | _ => false
    | _ => false
  let named := [".inf", ".Inf", ".INF"].contains (String.ofList body) ||
    [".nan", ".NaN", ".NAN"].contains s
  point || whole || sixty || named

/-- Is this a time, or a date with two digits for its month and its day? -/
def isTimestamp (s : String) : Bool :=
  match Moment.ofText? s with
  | some (.date _) => s.length == 10
  | some (.time _ _ _) => true
  | none => false

/-- What a plain scalar stands for. -/
def ofPlain (s : String) : Kind :=
  if isNull s then null
  else if (bool? s).isSome then bool
  else if isInteger s then integer
  else if isFloat s then float
  else if isTimestamp s then timestamp
  else if s = "<<" then merge
  else if s = "=" then default
  else text

end Kind

end Scaffold.Yaml
