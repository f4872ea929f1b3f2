import Scaffold.Expr.Dialect
import Scaffold.File.Error
import Scaffold.Value.Datum
import Scaffold.Yaml.Data.Load

/-!
# Variables of the command line

Variables come from a YAML file and from definitions `NAME=VALUE`, which win. A value keeps the text
that is written for it; only the braced syntax has truth values and arrays, and takes the values of
definitions for YAML too.
-/

namespace Scaffold.Command

/-- Why variables cannot be loaded. -/
inductive LoadError
  | unopened (path : String) (e : File.Error)
  /-- The file is not in UTF-8. -/
  | undecodable (f : Text.Utf8.Fault)
  | notMapping (path : String)
  | invalidValue (name : Text.Stored) (d : Dialect)
  | invalidDefinition (text : String)
  /-- A definition without any text. -/
  | noDefinition
  | yaml (source : Yaml.Source) (e : Yaml.Error)
deriving DecidableEq, Repr

def LoadError.message : LoadError → String
  | unopened path .missing => s!"file not found: {path}"
  | unopened path e => e.message path
  | undecodable f => f.message
  | notMapping path => s!"{path}: root must be a YAML mapping"
  | invalidValue name d =>
    -- what messages are written to escapes the surrogates
    s!"Invalid value for variable '{Text.escapedParts name.parts}', expected " ++
      match d with
      | .stack => "a string"
      | .braced => "a string, boolean or list of strings"
  | invalidDefinition text => s!"Invalid definition '{text}', expected NAME=VALUE"
  | noDefinition => "'list' object has no attribute 'partition'"
  | yaml source e => e.message source

/-- Does a run report this error as its own? -/
def LoadError.isReported : LoadError → Bool
  | unopened _ .missing => true
  | unopened _ .nul => true
  | unopened _ _ => false
  | noDefinition => false
  | yaml _ e => e.isReported
  | _ => true

/-- A text as messages on it name and quote it. -/
def quotedSource (text : Text.Stored) : Yaml.Source := ⟨"<unicode string>", text.text?⟩

/-- A text of a document as a datum. -/
def textDatum (text : Text.Stored) : Datum :=
  match text.text? with
  | some s => .plain (.text s)
  | none => .value (.ofParts text.parts)

/-- Texts of a document as a datum. -/
def arrayDatum (texts : List Text.Stored) : Datum :=
  match texts.mapM Text.Stored.text? with
  | some ss => .plain (.list (ss.map .text))
  | none => .value (.ofItems (texts.map Text.Stored.parts))

/-- What the data of a document give to a variable. -/
def dataDatum (data : Yaml.Data) : Datum :=
  let other := Datum.other data.typeName (if data.isShowable then some data.shown else none)
  match data with
  | .null => .plain .null
  | .bool b => .plain (.bool b)
  | .text s => textDatum s
  | .list items =>
    match Yaml.Data.texts? items with
    | some texts => arrayDatum texts
    | none => other
  | .pairs [] => .plain (.list [])
  | _ => other

/-- What a node gives to the variable `name`. -/
def nodeDatum (d : Dialect) (name : Text.Stored) (n : Yaml.Node) : Except LoadError Datum :=
  match d, n with
  | .stack, .scalar _ _ text => .ok (textDatum text)
  | .braced, .scalar _ tag text =>
    if tag = Yaml.Node.kindTag .bool then
      ((Yaml.load text).mapError (.yaml (quotedSource text))).map dataDatum
    else .ok (textDatum text)
  | .braced, .sequence _ _ items =>
    match Yaml.Node.texts? items with
    | some texts => .ok (arrayDatum texts)
    | none => .error (.invalidValue name d)
  | _, _ => .error (.invalidValue name d)

/-- Binds the entries of a mapping. No expression refers to a name with surrogates. -/
def bindEntries (d : Dialect) (b : Bindings) (entries : List (Yaml.Node × Yaml.Node)) :
    Except LoadError Bindings :=
  entries.foldlM (fun b (key, value) => do
    let datum ← nodeDatum d key.keyName value
    match key.keyName.text? with
    | some name => return b.set name datum
    | none => return b) b

/-- A text with line feeds for all line breaks of files. -/
def unixLines : List Char → List Char
  | '\r' :: '\n' :: cs => '\n' :: unixLines cs
  | '\r' :: cs => '\n' :: unixLines cs
  | c :: cs => c :: unixLines cs
  | [] => []

/-- The variables in a file. -/
def fileBindings (d : Dialect) (path text : String) : Except LoadError Bindings :=
  match Yaml.parse (.ofChars (unixLines text.toList)) with
  | .error e => .error (.yaml ⟨path, none⟩ e)
  | .ok none => .ok []
  | .ok (some (.mapping _ _ entries)) => bindEntries d [] entries
  | .ok (some _) => .error (.notMapping path)

/-- The name and the value of a definition. -/
def splitDefinition? (text : String) : Option (String × String) :=
  let cs := text.toList
  match cs.takeWhile (· ≠ '='), cs.dropWhile (· ≠ '=') with
  | c :: name, '=' :: value => some (String.ofList (c :: name), String.ofList value)
  | _, _ => none

/-- The value of a definition as a datum. -/
def definedDatum (d : Dialect) (name value : String) : Except LoadError Datum :=
  match d with
  | .stack => .ok (.plain (.text value))
  | .braced =>
    match Yaml.parse (.ofText value) with
    | .error e => .error (.yaml (quotedSource (.ofText value)) e)
    | .ok none => .ok (.plain (.text ""))
    | .ok (some n) => nodeDatum d (.ofText name) n

/-- Adds a definition to bindings. -/
def define (d : Dialect) (b : Bindings) : Option String → Except LoadError Bindings
  | none => .error .noDefinition
  | some text =>
    match splitDefinition? text with
    | none => .error (.invalidDefinition text)
    | some (name, value) => (definedDatum d name value).map (b.set name)

/-- The text of bytes in UTF-8. -/
def decodeText (bytes : List UInt8) : Except LoadError String :=
  match Text.Utf8.fault? bytes with
  | some f => .error (.undecodable f)
  | none => .ok ((String.fromUTF8? (ByteArray.mk bytes.toArray)).getD "")

/-- The variables of a file, if there is one, and of definitions. -/
def loadBindings (d : Dialect) (opener : File.Opener) (path : Option String)
    (definitions : List (Option String)) : Except LoadError Bindings := do
  let b ← match path with
    | none => pure []
    | some p =>
      let bytes ← (opener p).mapError (.unopened p)
      fileBindings d p (← decodeText bytes)
  definitions.foldlM (define d) b

end Scaffold.Command
