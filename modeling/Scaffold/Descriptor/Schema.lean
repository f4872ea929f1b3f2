import Scaffold.Descriptor.Vocabulary

/-!
# The schema of a descriptor

Each kind of node has a list of declared fields, in the order in which a node holds and shows them.
A declaration says what the field holds and which part of an element fills it.
-/

namespace Scaffold.Descriptor

/-- What a field holds. -/
inductive Shape
  /-- A text that may be absent. -/
  | text
  /-- A text that every node of the kind has. -/
  | requiredText
  /-- A truth value, false unless given. -/
  | flag
  /-- A rank among siblings, `defaultOrder` unless given. -/
  | order
  /-- A list of texts. -/
  | texts
  /-- The attributes of the element as they stand. -/
  | attributes
  /-- At most one node. -/
  | node
  /-- A list of nodes. -/
  | nodes
deriving DecidableEq, Repr

/-- The order of an entry that does not state one. -/
def defaultOrder : Int := 100

/-- Which part of an element fills a field. -/
inductive Origin
  /-- The attribute of the field's name. -/
  | ownAttribute
  /-- All attributes together. -/
  | allAttributes
  /-- The text of the element. -/
  | content
  /-- Child elements. -/
  | elements
deriving DecidableEq, Repr

/-- A declared field. -/
structure Declaration where
  field : Field
  shape : Shape
  origin : Origin
deriving DecidableEq, Repr

namespace Declaration

def text (f : Field) : Declaration := ⟨f, .text, .ownAttribute⟩

def required (f : Field) : Declaration := ⟨f, .requiredText, .ownAttribute⟩

def order : Declaration := ⟨.order, .order, .ownAttribute⟩

/-- A text of the element itself. -/
def content (f : Field) : Declaration := ⟨f, .text, .content⟩

/-- A text that a child element carries. -/
def childText (f : Field) : Declaration := ⟨f, .text, .elements⟩

/-- Texts that child elements carry. -/
def childTexts (f : Field) : Declaration := ⟨f, .texts, .elements⟩

def node (f : Field) : Declaration := ⟨f, .node, .elements⟩

def nodes (f : Field) : Declaration := ⟨f, .nodes, .elements⟩

/-- The `if` and `unless` conditions. -/
def conditions : List Declaration := [text .onlyIf, text .exceptIf]

/-- The logic that most nodes can nest. -/
def branch : List Declaration :=
  [nodes .contexts, nodes .execs, nodes .sources, nodes .inputs, nodes .steps, node .output]

/-- The fields that all inputs share. -/
def input : List Declaration :=
  [required .name, text .label, text .default, text .prompt, ⟨.optional, .flag, .ownAttribute⟩,
    childText .help] ++ branch ++ conditions

/-- Where the content of a model value comes from. -/
def modelValue : List Declaration :=
  [content .value, text .url, text .file, text .template, order] ++ conditions

/-- The entries of a model node. -/
def modelEntries : List Declaration := [nodes .values, nodes .lists, nodes .maps]

end Declaration

open Declaration in
/-- The declared fields of a kind. -/
def Kind.schema : Kind → List Declaration
  | exec => [text .url, text .src]
  | source => [text .url, text .src]
  | contextText => [required .path, content .text]
  | contextBoolean => [required .path, ⟨.value, .flag, .content⟩]
  | contextEnum => [required .path, childTexts .values]
  | contextList => [required .path, childTexts .values]
  | contextBlock => nodes .nodes :: conditions
  | modelValue => Declaration.modelValue
  | modelKeyedValue => required .key :: Declaration.modelValue
  | modelList => modelEntries ++ order :: conditions
  | modelKeyedList => required .key :: modelEntries ++ order :: conditions
  | modelMap => modelEntries ++ order :: conditions
  | modelKeyedMap => required .key :: modelEntries ++ order :: conditions
  | model => modelEntries ++ conditions
  | replacement => [required .regex, required .replacement]
  | transformation => required .id :: nodes .replacements :: conditions
  | fileSet => required .source :: required .target :: conditions
  | fileSets =>
    [⟨.transformations, .texts, .ownAttribute⟩, childText .directory, childTexts .includes,
      childTexts .excludes] ++ conditions
  | template => [text .engine, text .source, text .target, node .model] ++ conditions
  | templates =>
    [text .engine, ⟨.transformations, .texts, .ownAttribute⟩, childText .directory,
      childTexts .includes, childTexts .excludes, node .model] ++ conditions
  | output =>
    [nodes .transformations, nodes .files, nodes .fileSets, nodes .templates, nodes .templateSets,
      node .model] ++ conditions
  | inputOption => [required .value, text .label, childText .help] ++ branch ++ conditions
  | inputEntry => input
  | inputText => input ++ [text .placeholder]
  | inputBoolean => input
  | inputEnum => input ++ [nodes .options]
  | inputList => input ++ [text .min, text .max, nodes .options]
  | inputBlock =>
    [nodes .inputs, nodes .contexts, nodes .execs, nodes .sources, nodes .blocks, nodes .steps,
      node .output] ++ conditions
  | step =>
    [text .label, childText .help, nodes .contexts, nodes .execs, nodes .sources, nodes .inputs] ++
      conditions
  | script =>
    [⟨.attributes, .attributes, .allAttributes⟩, nodes .contexts, nodes .steps, nodes .inputs,
      nodes .sources, nodes .execs, childText .help, node .output]

/-- The declaration of a field in a kind. -/
def Kind.declaration? (kind : Kind) (f : Field) : Option Declaration :=
  kind.schema.find? (·.field == f)

end Scaffold.Descriptor
