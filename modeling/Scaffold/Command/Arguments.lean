import Scaffold.Command.Form
import Scaffold.Text.Digit
import Scaffold.Text.Quoted

/-!
# Arguments of a command

Arguments are sorted into switches and words by a form. A switch may be shortened as long as its
beginning fits one switch only, and its value may be attached to it. What no part of the form takes
is kept as surplus.
-/

namespace Scaffold.Command

/-- What is wrong with arguments. -/
inductive Misuse
  | ambiguous (argument : String) (names : List String)
  | surplusValue (switch : Switch) (value : String)
  | missingValue (switch : Switch)
  | invalidChoice (label value : String) (choices : List String)
  | missingArgument (name : String)
  | unrecognized (arguments : List String)
deriving DecidableEq, Repr

def Misuse.message : Misuse → String
  | ambiguous argument names =>
    s!"ambiguous option: {argument} could match " ++ String.intercalate ", " names
  | surplusValue switch value =>
    s!"argument {switch.label}: ignored explicit argument {Text.quoted value}"
  | missingValue switch => s!"argument {switch.label}: expected one argument"
  | invalidChoice label value choices =>
    s!"argument {label}: invalid choice: {Text.quoted value} (choose from " ++
      String.intercalate ", " (choices.map Text.quoted) ++ ")"
  | missingArgument name => s!"the following arguments are required: {name}"
  | unrecognized arguments => "unrecognized arguments: " ++ String.intercalate " " arguments

/-- Why the reading of arguments stops. -/
inductive Stop
  | help (form : Form)
  | misuse (form : Form) (m : Misuse)
deriving DecidableEq, Repr

/-- A switch as it is given: under which name, and with the value that is attached. -/
structure Given where
  switch : Switch
  name : String
  value : Option String
deriving DecidableEq, Repr

/-- An argument by what it looks like. -/
inductive Piece
  | word (text : String)
  /-- `--`, after which there are only words. -/
  | separator
  | given (g : Given)
  /-- A switch that the form does not have. -/
  | unknown (text : String)
deriving DecidableEq, Repr

namespace Piece

def text : Piece → String
  | word t => t
  | separator => "--"
  | given g => g.name
  | unknown t => t

/-- Does this look like a switch? -/
def isSwitch : Piece → Bool
  | given _ => true
  | unknown _ => true
  | _ => false

/-- The parts of a text before and after its first equals sign. -/
def splitEquals? (cs : List Char) : Option (String × String) :=
  match cs.dropWhile (· ≠ '=') with
  | '=' :: value => some (String.ofList (cs.takeWhile (· ≠ '=')), String.ofList value)
  | _ => none

/-- Is this a negative number, with or without a point? -/
def isNegativeNumber (cs : List Char) : Bool :=
  let cs := if cs.getLast? = some '\n' then cs.dropLast else cs
  match cs with
  | '-' :: ds =>
    let rest := ds.dropWhile Text.isDecimalDigit
    match rest with
    | [] => !ds.isEmpty
    | '.' :: fraction => !fraction.isEmpty && fraction.all Text.isDecimalDigit
    | _ => false
  | _ => false

/-- The switches that a text may be short for. -/
def candidates (f : Form) (text : String) : List Given :=
  let cs := text.toList
  match cs with
  | '-' :: '-' :: _ =>
    let (start, value) := match splitEquals? cs with
      | some (start, value) => (start, some value)
      | none => (text, none)
    (f.named.filter fun (n, _) => start.toList.isPrefixOf n.toList).map fun (n, s) => ⟨s, n, value⟩
  | _ =>
    f.named.filterMap fun (n, s) =>
      if n.toList = cs.take 2 then some ⟨s, n, some (String.ofList (cs.drop 2))⟩
      else if cs.isPrefixOf n.toList then some ⟨s, n, none⟩
      else none

/-- The switch that a text spells in full. -/
def spelledOut? (f : Form) (text : String) : Option Given :=
  match f.find? text with
  | some s => some ⟨s, text, none⟩
  | none =>
    match splitEquals? text.toList with
    | some (name, value) => (f.find? name).map fun s => ⟨s, name, some value⟩
    | none => none

/-- What an argument before any separator looks like. -/
def classify (f : Form) (text : String) : Except Stop Piece :=
  match text.toList with
  | '-' :: _ :: _ =>
    match spelledOut? f text, candidates f text with
    | some g, _ => .ok (given g)
    | none, [g] => .ok (given g)
    | none, [] =>
      if isNegativeNumber text.toList ∨ text.toList.contains ' ' then .ok (word text)
      else .ok (unknown text)
    | none, gs => .error (.misuse f (.ambiguous text (gs.map (·.name))))
  | _ => .ok (word text)

/-- Arguments as pieces. -/
def ofArguments (f : Form) : List String → Except Stop (List (String × Piece))
  | [] => .ok []
  | text :: texts =>
    if text = "--" then .ok ((text, separator) :: texts.map fun t => (t, word t))
    else do
      let p ← classify f text
      return (text, p) :: (← ofArguments f texts)

end Piece

/-- Arguments that are taken: switches with their values, the words of the form's positional, and
what is left over. -/
structure Taken where
  switches : List (Switch × Option String) := []
  words : Option (List String) := none
  surplus : List String := []
deriving DecidableEq, Repr

namespace Taken

/-- The values that are given for a switch, in order. -/
def valuesOf (t : Taken) (name : String) : List (Option String) :=
  t.switches.filterMap fun (s, v) => if s.names.contains name then some v else none

/-- Is a switch given? -/
def has (t : Taken) (name : String) : Bool := t.switches.any (·.1.names.contains name)

/-- Takes a switch, unless it asks for help or its value is none of the choices. The value `--` is
taken for a separator, so that it leaves none. -/
def record (f : Form) (t : Taken) (s : Switch) (value : Option String) : Except Stop Taken :=
  if s = helpSwitch then .error (.help f)
  else match value with
    | some "--" => .ok { t with switches := t.switches ++ [(s, none)] }
    | some v =>
      if !s.choices.isEmpty && !s.choices.contains v then
        .error (.misuse f (.invalidChoice s.label v s.choices))
      else .ok { t with switches := t.switches ++ [(s, value)] }
    | none => .ok { t with switches := t.switches ++ [(s, none)] }

/-- The switches that one argument spells: a short one without a value may be followed by others.
The last one may still want a value, from the next argument. -/
def chain (f : Form) (s : Switch) (short : Bool) :
    (value : List Char) → Except Stop (List (Switch × Option String))
  | [] => .error (.misuse f (.surplusValue s ""))
  | c :: cs =>
    if !short then .error (.misuse f (.surplusValue s (String.ofList (c :: cs))))
    else match f.find? (String.ofList ['-', c]) with
      | none => .error (.misuse f (.surplusValue s (String.ofList (c :: cs))))
      | some other =>
        if cs.isEmpty then .ok [(s, none), (other, none)]
        else if other.takesValue then .ok [(s, none), (other, some (String.ofList cs))]
        else (chain f other true cs).map ((s, none) :: ·)

/-- The switches that an argument spells, with attached values. -/
def spelled (f : Form) (g : Given) : Except Stop (List (Switch × Option String)) :=
  match g.value with
  | none => .ok [(g.switch, none)]
  | some v =>
    if g.switch.takesValue then .ok [(g.switch, some v)]
    else chain f g.switch (g.name.toList.getD 1 ' ' ≠ '-') v.toList

/-- The switches of an argument with their values, of which the last may be the next argument, and
how many further arguments are used. -/
def withNext (f : Form) (ss : List (Switch × Option String)) (next : Option Piece) :
    Except Stop (List (Switch × Option String) × Nat) :=
  match ss.getLast? with
  | some (s, none) =>
    if !s.takesValue then .ok (ss, 0)
    else match next with
      | some (.word v) => .ok (ss.dropLast ++ [(s, some v)], 1)
      | _ => .error (.misuse f (.missingValue s))
  | _ => .ok (ss, 0)

/-- The number of pieces that a positional takes at the start of `ps`; none if it does not fit. -/
def positionalLength? (p : Positional) (ps : List Piece) : Option Nat :=
  let lead := (ps.takeWhile (· = .separator)).length
  match ps.drop lead, p with
  | .word _ :: rest, .argument _ => some (lead + 1 + (rest.takeWhile (· = .separator)).length)
  | .word _ :: rest, .command _ _ => some (lead + 1 + rest.length)
  | _, _ => none

/-- Takes the pieces one after another. -/
def take (f : Form) : (fuel : Nat) → Taken → List (String × Piece) → Except Stop Taken
  | _, t, [] => .ok t
  | 0, t, _ => .ok t
  | fuel + 1, t, (text, .unknown _) :: ps =>
    take f fuel { t with surplus := t.surplus ++ [text] } ps
  | fuel + 1, t, (_, .given g) :: ps => do
    let (ss, used) ← withNext f (← spelled f g) (ps.head?.map (·.2))
    let t ← ss.foldlM (fun t (s, v) => record f t s v) t
    take f fuel t (ps.drop used)
  | fuel + 1, t, p :: ps =>
    let length := if t.words.isSome then none
      else positionalLength? f.positional ((p :: ps).map (·.2))
    match length with
    | some n =>
      take f fuel { t with words := some (((p :: ps).take n).map (·.1)) } ((p :: ps).drop n)
    | none =>
      let surplus := (p :: ps).takeWhile (!·.2.isSwitch)
      take f fuel { t with surplus := t.surplus ++ surplus.map (·.1) }
        ((p :: ps).dropWhile (!·.2.isSwitch))

/-- Takes arguments by a form. -/
def ofArguments (f : Form) (arguments : List String) : Except Stop Taken := do
  let ps ← Piece.ofArguments f arguments
  let t ← take f (ps.length + 1) {} ps
  match f.positional, t.words with
  | .argument name, none => throw (.misuse f (.missingArgument name))
  | .command name choices, some (word :: _) =>
    if choices.contains word then return t
    else throw (.misuse f (.invalidChoice name word choices))
  | _, _ => return t

/-- The argument among the words of the positional, which may have a separator beside it. -/
def argument (t : Taken) : String :=
  (((t.words.getD []).erase "--").head?).getD ""

end Taken

end Scaffold.Command
