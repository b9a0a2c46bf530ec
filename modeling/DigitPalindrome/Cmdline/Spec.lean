/-!
# Describing a command line

A program's command line is described as data: a root command and its
subcommands, each with its arguments in declaration order. An argument is a
flag (`-v`, `--verbose`), an option with a value (`-o json`, `--output=json`),
a positional value (`<INTEGER>`), or one of the help and version switches.
Arguments may be global (also accepted after a subcommand), may conflict with
or require other arguments, and may take their value from an environment
variable. A command may also name groups of its arguments.
-/

namespace DigitPalindrome

namespace Cmdline

/-- One of the fixed values an option accepts, with its help. -/
structure Choice where
  name : String
  help : String
  deriving DecidableEq, Repr

/-- What an argument does when it is given. -/
inductive Action where
  /-- A switch that is on once given; giving it twice is an error. -/
  | setTrue
  /-- A single value; giving it twice is an error. -/
  | set
  /-- Any number of values. -/
  | append
  /-- Print help and stop. -/
  | help
  /-- Print the version and stop. -/
  | version
  deriving DecidableEq, Repr

/-- An argument of a command. An argument with neither a short nor a long name is
positional. -/
structure ArgSpec where
  /-- The name other arguments refer to it by. -/
  id : String
  short : Option Char := none
  long : Option String := none
  /-- The placeholder of its value, such as `PATH` or `INTEGER`. -/
  valueName : Option String := none
  action : Action
  /-- The help shown in the summary. -/
  help : String := ""
  /-- The help shown in the long form, when it differs. -/
  longHelp : Option String := none
  /-- The values it accepts, when they are fixed. -/
  choices : List Choice := []
  required : Bool := false
  /-- Whether subcommands accept it too. -/
  global : Bool := false
  conflictsWith : List String := []
  requires : List String := []
  /-- The environment variable that gives its value when it is not given. -/
  env : Option String := none
  /-- Whether a value that looks like a negative number is taken as a value. -/
  allowNegativeNumbers : Bool := false
  /-- Whether an empty value is refused (a path must not be empty). -/
  refuseEmpty : Bool := false
  deriving DecidableEq, Repr

namespace ArgSpec

/-- Whether the argument is positional. -/
def isPositional (a : ArgSpec) : Bool := a.short.isNone && a.long.isNone

/-- Whether the argument takes values. -/
def takesValue (a : ArgSpec) : Bool :=
  match a.action with
  | .set | .append => true
  | _ => false

/-- The placeholder of the argument's value. -/
def placeholder (a : ArgSpec) : String := a.valueName.getD a.id.toUpper

/-- How the argument is named in messages: `--output <OUTPUT>`, `--verbose`,
`-x`, `<INTEGER>` or `[COMMAND]...`. -/
def display (a : ArgSpec) : String :=
  if a.isPositional then
    let core := if a.required then "<" ++ a.placeholder ++ ">" else "[" ++ a.placeholder ++ "]"
    if a.action == .append then core ++ "..." else core
  else
    let name := match a.long, a.short with
      | some l, _ => "--" ++ l
      | none, some s => "-" ++ s.toString
      | none, none => a.id
    if a.takesValue then name ++ " <" ++ a.placeholder ++ ">" else name

/-- Whether the argument's fixed values carry help of their own. -/
def choicesHaveHelp (a : ArgSpec) : Bool := a.choices.any fun c => !c.help.isEmpty

end ArgSpec

/-- A named set of a command's arguments. Giving one member makes the group
present too, and some usage lines then show the group as one alternative,
`<INTEGER|--output <OUTPUT>>`, in place of its members. -/
structure ArgGroup where
  id : String
  members : List String
  deriving DecidableEq, Repr

/-- A command: its name and aliases, its description, its arguments in
declaration order (global arguments of the program included), and its groups. -/
structure CommandSpec where
  name : String
  aliases : List String := []
  about : String
  /-- How usage lines name it: the program name, then the subcommand name. -/
  usageName : String
  /-- How the version line names it. -/
  versionName : String
  args : List ArgSpec
  groups : List ArgGroup := []
  deriving Repr

namespace CommandSpec

/-- Whether the command answers to a name. -/
def answersTo (c : CommandSpec) (name : String) : Bool := c.name == name || c.aliases.contains name

/-- The argument with an id. -/
def find? (c : CommandSpec) (id : String) : Option ArgSpec := c.args.find? fun a => a.id == id

/-- The argument with a long name. -/
def findLong? (c : CommandSpec) (long : String) : Option ArgSpec :=
  c.args.find? fun a => a.long == some long

/-- The argument with a short name. -/
def findShort? (c : CommandSpec) (short : Char) : Option ArgSpec :=
  c.args.find? fun a => a.short == some short

/-- The positional arguments, in order. -/
def positionals (c : CommandSpec) : List ArgSpec := c.args.filter ArgSpec.isPositional

/-- The named (non-positional) arguments, in order. -/
def options (c : CommandSpec) : List ArgSpec := c.args.filter fun a => !a.isPositional

/-- The long names, in declaration order. -/
def longNames (c : CommandSpec) : List String := c.args.filterMap ArgSpec.long

/-- The group with an id. -/
def findGroup? (c : CommandSpec) (id : String) : Option ArgGroup := c.groups.find? fun g => g.id == id

/-- The groups an argument belongs to, in declaration order. -/
def groupsOf (c : CommandSpec) (id : String) : List ArgGroup :=
  c.groups.filter fun g => g.members.contains id

/-- How a usage line shows a group: its members between angle brackets and
separated by `|`, a positional member by its placeholder alone. -/
def groupForm (c : CommandSpec) (g : ArgGroup) : String :=
  let forms := g.members.filterMap fun id =>
    (c.find? id).map fun a => if a.isPositional then a.placeholder else a.display
  "<" ++ "|".intercalate forms ++ ">"

/-- Whether some argument has a long form of its help. -/
def hasLongHelp (c : CommandSpec) : Bool :=
  c.args.any fun a => a.longHelp.isSome || a.choicesHaveHelp

end CommandSpec

/-- A program: its root command, its subcommands (the built-in `help` command
last) and its version. The root requires a subcommand. -/
structure ProgramSpec where
  root : CommandSpec
  commands : List CommandSpec
  version : String
  /-- The width help text is wrapped to. -/
  width : Nat := 100
  deriving Repr

namespace ProgramSpec

/-- The subcommand answering to a name. -/
def command? (p : ProgramSpec) (name : String) : Option CommandSpec :=
  p.commands.find? fun c => c.answersTo name

/-- Every name subcommands answer to, each command's aliases after its name. -/
def commandNames (p : ProgramSpec) : List String :=
  p.commands.flatMap fun c => c.name :: c.aliases

end ProgramSpec

end Cmdline

end DigitPalindrome
