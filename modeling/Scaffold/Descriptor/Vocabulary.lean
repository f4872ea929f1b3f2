/-!
# Kinds and fields of a descriptor

The vocabulary of a descriptor tree: the kinds of its nodes and the fields that nodes carry, each
with the name it has outside.
-/

namespace Scaffold.Descriptor

/-- The kinds of nodes. -/
inductive Kind
  | exec
  | source
  | contextText
  | contextBoolean
  | contextEnum
  | contextList
  | contextBlock
  | modelValue
  | modelKeyedValue
  | modelList
  | modelKeyedList
  | modelMap
  | modelKeyedMap
  | model
  | replacement
  | transformation
  | fileSet
  | fileSets
  | template
  | templates
  | output
  | inputOption
  /-- An input of no further kind. -/
  | inputEntry
  | inputText
  | inputBoolean
  | inputEnum
  | inputList
  | inputBlock
  | step
  | script
deriving DecidableEq, Repr

namespace Kind

def name : Kind → String
  | exec => "Exec"
  | source => "Source"
  | contextText => "ContextText"
  | contextBoolean => "ContextBoolean"
  | contextEnum => "ContextEnum"
  | contextList => "ContextList"
  | contextBlock => "ContextBlock"
  | modelValue => "ModelValue"
  | modelKeyedValue => "ModelKeyedValue"
  | modelList => "ModelList"
  | modelKeyedList => "ModelKeyedList"
  | modelMap => "ModelMap"
  | modelKeyedMap => "ModelKeyedMap"
  | model => "Model"
  | replacement => "Replacement"
  | transformation => "Transformation"
  | fileSet => "FileSet"
  | fileSets => "FileSets"
  | template => "Template"
  | templates => "Templates"
  | output => "Output"
  | inputOption => "InputOption"
  | inputEntry => "InputEntry"
  | inputText => "InputText"
  | inputBoolean => "InputBoolean"
  | inputEnum => "InputEnum"
  | inputList => "InputList"
  | inputBlock => "InputBlock"
  | step => "Step"
  | script => "ArchetypeScript"

/-- Every kind once. -/
def all : List Kind :=
  [.exec, .source, .contextText, .contextBoolean, .contextEnum, .contextList, .contextBlock,
    .modelValue, .modelKeyedValue, .modelList, .modelKeyedList, .modelMap, .modelKeyedMap, .model,
    .replacement, .transformation, .fileSet, .fileSets, .template, .templates, .output,
    .inputOption, .inputEntry, .inputText, .inputBoolean, .inputEnum, .inputList, .inputBlock, .step,
    .script]

def ofName? (name : String) : Option Kind := all.find? (·.name == name)

end Kind

/-- The fields of nodes. -/
inductive Field
  | url
  | src
  | path
  | text
  | value
  | values
  | nodes
  | file
  | template
  | order
  | key
  | lists
  | maps
  | regex
  | replacement
  | id
  | replacements
  | source
  | target
  | transformations
  | directory
  | includes
  | excludes
  | engine
  | model
  | files
  | fileSets
  | templates
  | templateSets
  | name
  | label
  | default
  | prompt
  | optional
  | placeholder
  | min
  | max
  | help
  | contexts
  | execs
  | sources
  | inputs
  | blocks
  | steps
  | output
  | options
  | attributes
  | onlyIf
  | exceptIf
deriving DecidableEq, Repr

namespace Field

/-- The name of a field. -/
def spelling : Field → String
  | url => "url"
  | src => "src"
  | path => "path"
  | text => "text"
  | value => "value"
  | values => "values"
  | nodes => "nodes"
  | file => "file"
  | template => "template"
  | order => "order"
  | key => "key"
  | lists => "lists"
  | maps => "maps"
  | regex => "regex"
  | replacement => "replacement"
  | id => "id"
  | replacements => "replacements"
  | source => "source"
  | target => "target"
  | transformations => "transformations"
  | directory => "directory"
  | includes => "includes"
  | excludes => "excludes"
  | engine => "engine"
  | model => "model"
  | files => "files"
  | fileSets => "file_sets"
  | templates => "templates"
  | templateSets => "template_sets"
  | name => "name"
  | label => "label"
  | default => "default"
  | prompt => "prompt"
  | optional => "optional"
  | placeholder => "placeholder"
  | min => "min"
  | max => "max"
  | help => "help"
  | contexts => "contexts"
  | execs => "execs"
  | sources => "sources"
  | inputs => "inputs"
  | blocks => "blocks"
  | steps => "steps"
  | output => "output"
  | options => "options"
  | attributes => "attributes"
  | onlyIf => "if_expr"
  | exceptIf => "unless_expr"

/-- Every field once. -/
def all : List Field :=
  [.url, .src, .path, .text, .value, .values, .nodes, .file, .template, .order, .key, .lists,
    .maps, .regex, .replacement, .id, .replacements, .source, .target, .transformations, .directory,
    .includes, .excludes, .engine, .model, .files, .fileSets, .templates, .templateSets, .name,
    .label, .default, .prompt, .optional, .placeholder, .min, .max, .help, .contexts, .execs,
    .sources, .inputs, .blocks, .steps, .output, .options, .attributes, .onlyIf, .exceptIf]

def ofSpelling? (s : String) : Option Field := all.find? (·.spelling == s)

/-- The attribute that fills a field: it has the name of the field but for the two conditions. -/
def attributeName : Field → String
  | onlyIf => "if"
  | exceptIf => "unless"
  | f => f.spelling

end Field

end Scaffold.Descriptor
