/-!
# Forms of command lines

A form says which switches and words a command takes, and has the texts that explain it.
-/

namespace Scaffold.Command

/-- A switch with its names. One that takes a value may restrict it to some choices. -/
structure Switch where
  names : List String
  takesValue : Bool := false
  choices : List String := []
deriving DecidableEq, Repr

/-- A switch as messages name it. -/
def Switch.label (s : Switch) : String := String.intercalate "/" s.names

/-- The word that a form takes: an argument, or a command with all that follows it. -/
inductive Positional
  | argument (name : String)
  | command (name : String) (choices : List String)
deriving DecidableEq, Repr

structure Form where
  program : String
  usage : String
  /-- What the help adds to the usage. -/
  explanation : String
  switches : List Switch
  positional : Positional
deriving DecidableEq, Repr

namespace Form

def help (f : Form) : String := f.usage ++ "\n" ++ f.explanation

/-- The switches by name, in the order of their names. -/
def named (f : Form) : List (String × Switch) :=
  f.switches.flatMap fun s => s.names.map fun n => (n, s)

/-- The switch with a name. -/
def find? (f : Form) (name : String) : Option Switch := f.named.lookup name

end Form

def helpSwitch : Switch := { names := ["-h", "--help"] }

def mainForm : Form where
  program := "archetype-script"
  usage := "usage: archetype-script [-h] \x7bexpr,read,check\x7d ...\n"
  explanation :=
    "Expression and descriptor tools for archetype scripts\n" ++
    "\n" ++
    "positional arguments:\n" ++
    "  \x7bexpr,read,check\x7d\n" ++
    "    expr             Parse and evaluate an expression\n" ++
    "    read             Read a descriptor and dump its tree\n" ++
    "    check            Read a descriptor and check every condition\n" ++
    "\n" ++
    "options:\n" ++
    "  -h, --help         show this help message and exit\n"
  switches := [helpSwitch]
  positional := .command "command" ["expr", "read", "check"]

def exprForm : Form where
  program := "archetype-script expr"
  usage :=
    "usage: archetype-script expr [-h] [-D NAME=VALUE] [--vars VARS_FILE]\n" ++
    "                             [--braced] [--print]\n" ++
    "                             expression\n"
  explanation :=
    "positional arguments:\n" ++
    "  expression        Expression text\n" ++
    "\n" ++
    "options:\n" ++
    "  -h, --help        show this help message and exit\n" ++
    "  -D NAME=VALUE     Define a variable (repeatable, value kept as text; YAML\n" ++
    "                    booleans and lists with --braced)\n" ++
    "  --vars VARS_FILE  YAML file with a mapping of variables\n" ++
    "  --braced          Use the braced syntax ($\x7bvar\x7d, contains, arrays)\n" ++
    "  --print           Print canonical text instead of evaluating\n"
  switches := [helpSwitch, { names := ["-D"], takesValue := true },
    { names := ["--vars"], takesValue := true }, { names := ["--braced"] },
    { names := ["--print"] }]
  positional := .argument "expression"

def readForm : Form where
  program := "archetype-script read"
  usage := "usage: archetype-script read [-h] [--format \x7byaml,json\x7d] file\n"
  explanation :=
    "positional arguments:\n" ++
    "  file                  Input descriptor XML file\n" ++
    "\n" ++
    "options:\n" ++
    "  -h, --help            show this help message and exit\n" ++
    "  --format \x7byaml,json\x7d  Output format\n"
  switches := [helpSwitch,
    { names := ["--format"], takesValue := true, choices := ["yaml", "json"] }]
  positional := .argument "file"

def checkForm : Form where
  program := "archetype-script check"
  usage := "usage: archetype-script check [-h] file\n"
  explanation :=
    "positional arguments:\n" ++
    "  file        Input descriptor XML file\n" ++
    "\n" ++
    "options:\n" ++
    "  -h, --help  show this help message and exit\n"
  switches := [helpSwitch]
  positional := .argument "file"

end Scaffold.Command
