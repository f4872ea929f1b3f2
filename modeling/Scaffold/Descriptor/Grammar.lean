import Scaffold.Descriptor.Schema

/-!
# The grammar of descriptor documents

Which child elements an open element may have, and for each of them the field of the parent that it
fills and the place it opens. A place is a position in the grammar: before the root, inside a node,
inside an element that only carries text, or inside a list of patterns.
-/

namespace Scaffold.Descriptor

/-- The name of the root element. -/
def rootElement : String := "archetype-script"

/-- What an open element stands for. -/
inductive Place
  /-- Outside of the root element. -/
  | document
  /-- An element that becomes a node. -/
  | node (kind : Kind)
  /-- An element that only carries text. -/
  | text
  /-- A list of include patterns. -/
  | includes
  /-- A list of exclude patterns. -/
  | excludes
deriving DecidableEq, Repr

/-- A child element: its name, the field of the parent that it fills, and its place. -/
structure Rule where
  element : String
  field : Field
  place : Place
deriving DecidableEq, Repr

namespace Rule

/-- A child element that becomes a node. -/
def node (element : String) (kind : Kind) (field : Field) : Rule := ⟨element, field, .node kind⟩

/-- The logic that most nodes can nest. Input blocks fill `blocks` where `inputs` is taken. -/
def branch (blockField : Field) : List Rule :=
  [node "context" .contextBlock .contexts, node "exec" .exec .execs,
    node "source" .source .sources, node "input" .inputBlock blockField, node "step" .step .steps,
    node "output" .output .output]

def help : Rule := ⟨"help", .help, .text⟩

def option : Rule := node "option" .inputOption .options

def contextValue : Rule := ⟨"value", .values, .text⟩

def model : Rule := node "model" .model .model

/-- How a set of files is selected. -/
def selection : List Rule :=
  [⟨"directory", .directory, .text⟩, ⟨"includes", .includes, .includes⟩,
    ⟨"excludes", .excludes, .excludes⟩]

/-- Entries that have keys. -/
def keyedEntries : List Rule :=
  [node "value" .modelKeyedValue .values, node "list" .modelKeyedList .lists,
    node "map" .modelKeyedMap .maps]

/-- Entries without keys. -/
def plainEntries : List Rule :=
  [node "value" .modelValue .values, node "list" .modelList .lists, node "map" .modelMap .maps]

end Rule

open Rule in
/-- The child elements of a kind of node. -/
def Kind.rules : Kind → List Rule
  | script => branch .inputs ++ [help]
  | step =>
    [node "context" .contextBlock .contexts, node "exec" .exec .execs,
      node "source" .source .sources, node "input" .inputBlock .inputs, help]
  | contextBlock =>
    [node "text" .contextText .nodes, node "boolean" .contextBoolean .nodes,
      node "enum" .contextEnum .nodes, node "list" .contextList .nodes]
  | contextEnum => [contextValue]
  | contextList => [contextValue]
  | inputBlock =>
    [node "text" .inputText .inputs, node "boolean" .inputBoolean .inputs,
      node "enum" .inputEnum .inputs, node "list" .inputList .inputs] ++ branch .blocks
  | inputText => branch .inputs ++ [help]
  | inputBoolean => branch .inputs ++ [help]
  | inputEnum => branch .inputs ++ [help, option]
  | inputList => branch .inputs ++ [help, option]
  | inputOption => branch .inputs ++ [help]
  | output =>
    [node "transformation" .transformation .transformations, node "file" .fileSet .files,
      node "files" .fileSets .fileSets, node "template" .template .templates,
      node "templates" .templates .templateSets, Rule.model]
  | transformation => [node "replace" .replacement .replacements]
  | fileSets => selection
  | template => [Rule.model]
  | templates => selection ++ [Rule.model]
  | model => keyedEntries
  | modelList => plainEntries
  | modelKeyedList => plainEntries
  | modelMap => keyedEntries
  | modelKeyedMap => keyedEntries
  | inputEntry => []
  | exec => []
  | source => []
  | contextText => []
  | contextBoolean => []
  | modelValue => []
  | modelKeyedValue => []
  | replacement => []
  | fileSet => []

namespace Place

/-- The child elements at a place. -/
def rules : Place → List Rule
  | document => [Rule.node rootElement .script .nodes]
  | node kind => kind.rules
  | text => []
  | includes => [⟨"include", .includes, .text⟩]
  | excludes => [⟨"exclude", .excludes, .text⟩]

/-- The rule for a child element. -/
def rule? (p : Place) (element : String) : Option Rule := p.rules.find? (·.element == element)

/-- Does the field `f` take one child element only? So it is where it holds one text or one node,
and for the root of a document. -/
def isSingular (p : Place) (f : Field) : Bool :=
  match p with
  | document => true
  | node kind => (kind.declaration? f).any fun d => d.shape == .text || d.shape == .node
  | _ => false

/-- Is the text of an element at this place kept? -/
def keepsText : Place → Bool
  | text => true
  | node kind => kind.schema.any (·.origin == .content)
  | _ => false

end Place

end Scaffold.Descriptor
