import Scaffold.Number.Literal
import Scaffold.Text.Quoted
import Scaffold.Yaml.Moment

/-!
# Data of YAML documents

What the nodes of a document stand for. A mapping keeps the order of its keys, of which no two are the
same, and so does a set, unless all of them are integers.
-/

namespace Scaffold.Yaml

inductive Data
  | null
  | bool (value : Bool)
  | integer (n : Int)
  | real (x : Number.Real)
  | text (s : Text.Stored)
  | bytes (bs : List UInt8)
  | moment (m : Moment)
  | list (items : List Data)
  /-- A list of keys with their values. -/
  | pairs (items : List (Data × Data))
  | mapping (entries : List (Data × Data))
  | set (items : List Data)
  /-- A collection inside itself. -/
  | loop (isMapping : Bool)
deriving Repr

namespace Data

/-- Bytes as messages show them. -/
def shownBytes (bs : List UInt8) : String :=
  let cs := bs.map fun b => Char.ofNat b.toNat
  let q := Text.Quoted.mark cs
  let escape (c : Char) : List Char :=
    if c.toNat < 0x80 then Text.Quoted.escape q c else Text.Quoted.byNumber c.toNat
  String.ofList ('b' :: q :: (cs.flatMap escape ++ [q]))

mutual

/-- The text of data inside a message. -/
def shown : Data → String
  | null => "None"
  | bool true => "True"
  | bool false => "False"
  | integer n => toString n
  | real x => x.text
  | text s => s.quoted
  | bytes bs => shownBytes bs
  | moment m => m.shown
  | list items => "[" ++ String.intercalate ", " (shownItems items) ++ "]"
  | pairs items => "[" ++ String.intercalate ", " (shownPairs items) ++ "]"
  | mapping entries => "\x7b" ++ String.intercalate ", " (shownEntries entries) ++ "\x7d"
  | set [] => "set()"
  | set items => "\x7b" ++ String.intercalate ", " (shownItems items) ++ "\x7d"
  | loop true => "\x7b...\x7d"
  | loop false => "[...]"

def shownItems : List Data → List String
  | [] => []
  | d :: ds => shown d :: shownItems ds

def shownPairs : List (Data × Data) → List String
  | [] => []
  | (k, v) :: es => ("(" ++ shown k ++ ", " ++ shown v ++ ")") :: shownPairs es

def shownEntries : List (Data × Data) → List String
  | [] => []
  | (k, v) :: es => (shown k ++ ": " ++ shown v) :: shownEntries es

end

mutual

/-- Can a message show data? An integer may have too many digits. -/
def isShowable : Data → Bool
  | null => true
  | bool _ => true
  | integer n => (Number.integer n).isWritable
  | real _ => true
  | text _ => true
  | bytes _ => true
  | moment _ => true
  | list items => areShowable items
  | pairs items => haveShowable items
  | mapping entries => haveShowable entries
  | set items => areShowable items
  | loop _ => true

def areShowable : List Data → Bool
  | [] => true
  | d :: ds => isShowable d && areShowable ds

def haveShowable : List (Data × Data) → Bool
  | [] => true
  | (k, v) :: es => isShowable k && isShowable v && haveShowable es

end

/-- The name of the type of data in messages. -/
def typeName : Data → String
  | null => "NoneType"
  | bool _ => "bool"
  | integer _ => "int"
  | real _ => "float"
  | text _ => "str"
  | bytes _ => "bytes"
  | moment (.date _) => "date"
  | moment (.time _ _ _) => "datetime"
  | list _ => "list"
  | pairs _ => "list"
  | mapping _ => "dict"
  | set _ => "set"
  | loop true => "dict"
  | loop false => "list"

/-- Can this be a key? Collections cannot. -/
def isKey : Data → Bool
  | list _ => false
  | pairs _ => false
  | mapping _ => false
  | set _ => false
  | loop _ => false
  | _ => true

/-- The number that a key counts as, as an integer times a power of two. Truth values count as zero
and one. -/
def amount? : Data → Option (Int × Int)
  | bool b => some (if b then 1 else 0, 0)
  | integer n => some (n, 0)
  | real (.double (.finite negative m e)) => some (Number.Double.signed negative m, e)
  | _ => none

/-- Are two keys the same? Numbers are if they are equal, whatever their kind. -/
def isSameKey (a b : Data) : Bool :=
  match a.amount?, b.amount? with
  | some (m, e), some (n, f) =>
    let low := min e f
    m * Number.Double.power 2 (e - low) == n * Number.Double.power 2 (f - low)
  | none, none => a.shown == b.shown
  | _, _ => false

/-- Puts an entry into a mapping: in place of the value of its key, or at the end. -/
def put (entries : List (Data × Data)) (key value : Data) : List (Data × Data) :=
  if entries.any (isSameKey key ·.1) then
    entries.map fun e => if isSameKey key e.1 then (e.1, value) else e
  else entries ++ [(key, value)]

/-- The integers among data. -/
def integers (ds : List Data) : List Int :=
  ds.filterMap fun
    | integer n => some n
    | _ => none

/-- The set of some keys. Integers stand in increasing order. -/
def setOf (keys : List Data) : Data :=
  let numbers := integers keys
  set (if numbers.length = keys.length then (numbers.mergeSort (· ≤ ·)).map integer else keys)

/-- The texts of items, if all of them are texts. -/
def texts? : List Data → Option (List Text.Stored)
  | [] => some []
  | text s :: ds => (texts? ds).map (s :: ·)
  | _ :: _ => none

end Data

end Scaffold.Yaml
