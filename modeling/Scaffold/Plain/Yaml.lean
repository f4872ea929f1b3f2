import Scaffold.Plain.Basic
import Scaffold.Yaml.Style

/-!
# YAML text

Plain data as YAML in block style: the entries of an object and the items of a list have lines of
their own, an object is indented by two more than what holds it, and a list stands as deep as the
entry that holds it.
-/

namespace Scaffold.Plain

open Yaml (Page)

namespace Block

/-- The longest key that is written on one line with its value. -/
def maxKeyLength : Nat := 122

/-- Does a key stand on one line with its value? -/
def isSimpleKey (key : String) : Bool :=
  key ≠ "" && key.length ≤ maxKeyLength && !key.toList.any Yaml.endsLine

/-- A key up to the colon after it. A long key has a line of its own. -/
def putKey (page : Page) (indent : Nat) (key : String) : Page :=
  if isSimpleKey key then (page.putScalar key true indent).put [':']
  else (((page.putText "? ").putScalar key false (indent + 2)).newLine indent).put [':']

mutual

/-- Data after a mark. A collection starts on a new line after a key, which `afterKey` says, and
on the same line after another mark. -/
def put (afterKey : Bool) (page : Page) (indent : Nat) : Plain → Page
  | .null => page.putText " null"
  | .bool true => page.putText " true"
  | .bool false => page.putText " false"
  | .number n => page.putText (" " ++ n.text)
  | .text s => (page.put [' ']).putScalar s false (indent + 2)
  | .list items =>
    if items.isEmpty then page.putText " []"
    else if afterKey then putItems false page indent items
    else putItems true (page.put [' ']) (indent + 2) items
  | .object entries =>
    if entries.isEmpty then page.putText " \x7b\x7d"
    else if afterKey then putEntries false page (indent + 2) entries
    else putEntries true (page.put [' ']) (indent + 2) entries

/-- Items of a list, each on a line; the first one on the current line if `here` says so. -/
def putItems (here : Bool) (page : Page) (indent : Nat) : List Plain → Page
  | [] => page
  | p :: ps =>
    let page := if here then page else page.newLine indent
    putItems false (put false (page.put ['-']) indent p) indent ps

/-- Entries of an object, each on a line; the first one on the current line if `here` says so. -/
def putEntries (here : Bool) (page : Page) (indent : Nat) : List (String × Plain) → Page
  | [] => page
  | (key, p) :: es =>
    let page := if here then page else page.newLine indent
    putEntries false (put (isSimpleKey key) (putKey page indent key) indent p) indent es

end

/-- Data at the beginning of a page. -/
def putRoot : Plain → Page
  | .list items => if items.isEmpty then Page.putText {} "[]" else putItems true {} 0 items
  | .object entries =>
    if entries.isEmpty then Page.putText {} "\x7b\x7d" else putEntries true {} 0 entries
  | .null => Page.putText {} "null"
  | .bool true => Page.putText {} "true"
  | .bool false => Page.putText {} "false"
  | .number n => Page.putText {} n.text
  | .text s => Page.putScalar {} s false 2

end Block

/-- The YAML text of plain data, one line at least. -/
def toYaml (p : Plain) : String := (Block.putRoot p).text ++ "\n"

end Scaffold.Plain
