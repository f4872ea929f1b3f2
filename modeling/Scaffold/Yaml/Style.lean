import Scaffold.Text.Hex
import Scaffold.Yaml.Kind

/-!
# Styles of scalars

A text is written plain when that reads back as the same text, else in single quotes, and in double
quotes when it holds characters that have to be escaped. A long text is continued on the next line,
at a space.
-/

namespace Scaffold.Yaml

/-- How a scalar is written. -/
inductive Style
  | plain
  | single
  | double
deriving DecidableEq, Repr

/-- Does `c` end a line? The carriage return is escaped before it could. -/
def endsLine (c : Char) : Bool := c == '\n' || c == '\x85' || c == '\u2028' || c == '\u2029'

/-- Does `c` count as space around an indicator? -/
def isGapChar (c : Char) : Bool := c == ' ' || c == '\t' || c == '\r' || c == '\x00' || endsLine c

/-- Is there a gap, or the end, at the start of `cs`? -/
def startsGap (cs : List Char) : Bool := cs.head?.all isGapChar

/-- The indicators that cannot begin a plain scalar. -/
def openers : List Char :=
  ['#', ',', '[', ']', '\x7b', '\x7d', '&', '*', '!', '|', '>', '\'', '"', '%', '@', '`']

/-- Is there an indicator after the first character, which `gap` says is a gap? -/
def hasInnerIndicator (gap : Bool) : List Char → Bool
  | [] => false
  | c :: cs =>
    (c == ':' && startsGap cs) || (c == '#' && gap) || hasInnerIndicator (isGapChar c) cs

/-- Would a reader of block text take a part of `cs` for an indicator? -/
def hasIndicator (cs : List Char) : Bool :=
  ['-', '-', '-'].isPrefixOf cs || ['.', '.', '.'].isPrefixOf cs ||
    match cs with
    | [] => false
    | c :: rest =>
      openers.contains c || ((c == '?' || c == ':' || c == '-') && startsGap rest) ||
        hasInnerIndicator (isGapChar c) rest

/-- Does `cs` hold two neighbours of these classes? -/
def hasPair (p q : Char → Bool) (cs : List Char) : Bool :=
  (cs.zip (cs.drop 1)).any fun (a, b) => p a && q b

/-- Is `c` outside the printable ASCII characters, and no line feed? -/
def isSpecial (c : Char) : Bool := !(c == '\n' || (' ' ≤ c && c ≤ '~'))

namespace Style

/-- Can `cs` be written between single quotes? -/
def allowsSingle (cs : List Char) : Bool :=
  !(cs.any isSpecial || hasPair (· == ' ') endsLine cs || hasPair endsLine (· == ' ') cs)

/-- Can `cs` be written plain? -/
def allowsPlain (cs : List Char) : Bool :=
  allowsSingle cs && !cs.any endsLine && cs.head? ≠ some ' ' && cs.getLast? ≠ some ' ' &&
    !hasIndicator cs

/-- The style of a text. -/
def ofText (s : String) (isKey : Bool) : Style :=
  let cs := s.toList
  if Kind.ofPlain s = .text && allowsPlain cs then plain
  else if allowsSingle cs && !(isKey && cs.any endsLine) then single
  else double

end Style

/-- The column after which a text is continued on the next line. -/
def width : Nat := 80

/-- Text on a page: where it ends, and its characters in reverse. -/
structure Page where
  chars : List Char := []
  column : Nat := 0

namespace Page

def put (p : Page) (cs : List Char) : Page := ⟨cs.reverse ++ p.chars, p.column + cs.length⟩

def putText (p : Page) (s : String) : Page := p.put s.toList

def newLine (p : Page) (indent : Nat) : Page :=
  ⟨List.replicate indent ' ' ++ '\n' :: p.chars, indent⟩

def text (p : Page) : String := String.ofList p.chars.reverse

end Page

/-- Consecutive characters of one class. -/
inductive Run
  | word (cs : List Char)
  | spaces (count : Nat)
  | breaks (count : Nat)
deriving DecidableEq, Repr

namespace Run

/-- Adds a character before runs. -/
def cons (c : Char) : List Run → List Run
  | word cs :: rs =>
    if c = ' ' then spaces 1 :: word cs :: rs
    else if c = '\n' then breaks 1 :: word cs :: rs
    else word (c :: cs) :: rs
  | spaces n :: rs =>
    if c = ' ' then spaces (n + 1) :: rs
    else if c = '\n' then breaks 1 :: spaces n :: rs
    else word [c] :: spaces n :: rs
  | breaks n :: rs =>
    if c = ' ' then spaces 1 :: breaks n :: rs
    else if c = '\n' then breaks (n + 1) :: rs
    else word [c] :: breaks n :: rs
  | [] =>
    if c = ' ' then [spaces 1]
    else if c = '\n' then [breaks 1]
    else [word [c]]

/-- A text as runs. -/
def ofChars (cs : List Char) : List Run := cs.foldr cons []

end Run

namespace Page

/-- Puts runs of a plain text. -/
def putPlain (split : Bool) (indent : Nat) (p : Page) : List Run → Page
  | [] => p
  | .spaces n :: rs =>
    let fold := n = 1 ∧ width < p.column ∧ split
    putPlain split indent (if fold then p.newLine indent else p.put (List.replicate n ' ')) rs
  | .word cs :: rs => putPlain split indent (p.put cs) rs
  | .breaks _ :: rs => putPlain split indent p rs

/-- A line break of the text is an empty line. -/
def putBreaks (indent : Nat) (p : Page) : Nat → Page
  | 0 => p.newLine indent
  | n + 1 => putBreaks indent (p.newLine 0) n

/-- Puts runs of a text in single quotes; `first` says whether nothing stands before them. -/
def putSingle (split : Bool) (indent : Nat) (first : Bool) (p : Page) : List Run → Page
  | [] => p
  | .spaces n :: rs =>
    let fold := n = 1 ∧ width < p.column ∧ split ∧ !first ∧ !rs.isEmpty
    putSingle split indent false
      (if fold then p.newLine indent else p.put (List.replicate n ' ')) rs
  | .word cs :: rs =>
    putSingle split indent false
      (p.put (cs.flatMap fun c => if c = '\'' then ['\'', '\''] else [c])) rs
  | .breaks n :: rs => putSingle split indent false (p.putBreaks indent n) rs

/-- The escape of a character in double quotes, if it needs one. -/
def escape? (c : Char) : Option (List Char) :=
  let named (e : Char) : Option (List Char) := some ['\\', e]
  match c with
  | '\x00' => named '0'
  | '\x07' => named 'a'
  | '\x08' => named 'b'
  | '\t' => named 't'
  | '\n' => named 'n'
  | '\x0b' => named 'v'
  | '\x0c' => named 'f'
  | '\r' => named 'r'
  | '\x1b' => named 'e'
  | '"' => named '"'
  | '\\' => named '\\'
  | '\x85' => named 'N'
  | '\xa0' => named '_'
  | '\u2028' => named 'L'
  | '\u2029' => named 'P'
  | c =>
    let n := c.toNat
    if ' ' ≤ c ∧ c ≤ '~' then none
    else if n ≤ 0xFF then some ('\\' :: 'x' :: Text.hexDigits .upper 2 n)
    else if n ≤ 0xFFFF then some ('\\' :: 'u' :: Text.hexDigits .upper 4 n)
    else some ('\\' :: 'U' :: Text.hexDigits .upper 8 n)

/-- Continues a text in double quotes on the next line; a space at its start is escaped. -/
def continueDouble (p : Page) (indent : Nat) (next : Option Char) : Page :=
  let p := (p.put ['\\']).newLine indent
  if next = some ' ' then p.put ['\\'] else p

/-- Puts a text in double quotes. `pending` is what is not put yet, in reverse. -/
def putDouble (split : Bool) (indent : Nat) (first : Bool) (p : Page) (pending : List Char) :
    List Char → Page
  | [] => p.put pending.reverse
  | c :: cs =>
    let mayFold := split && !first && !cs.isEmpty
    match escape? c with
    | some e =>
      let p := (p.put pending.reverse).put e
      let p := if mayFold && width + 1 < p.column then p.continueDouble indent cs.head? else p
      putDouble split indent false p [] cs
    | none =>
      if mayFold && (c == ' ' || pending.isEmpty) && width < p.column + pending.length then
        putDouble split indent false
          ((p.put pending.reverse).continueDouble indent (some c)) [c] cs
      else putDouble split indent false p (c :: pending) cs

/-- Puts a text in its style. A key is not continued. -/
def putScalar (p : Page) (s : String) (isKey : Bool) (indent : Nat) : Page :=
  let cs := s.toList
  match Style.ofText s isKey with
  | .plain => p.putPlain (!isKey) indent (Run.ofChars cs)
  | .single => ((p.put ['\'']).putSingle (!isKey) indent true (Run.ofChars cs)).put ['\'']
  | .double => ((p.put ['"']).putDouble (!isKey) indent true [] cs).put ['"']

end Page

end Scaffold.Yaml
