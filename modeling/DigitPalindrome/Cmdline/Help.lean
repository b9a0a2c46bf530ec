import DigitPalindrome.Cmdline.Spec
import DigitPalindrome.Cmdline.Text

/-!
# Help and usage text

The help of a command is its description, its usage line, and sections listing
its subcommands, positional arguments and options. The summary form puts each
entry's help beside it, aligned after the longest entry; the long form (for
commands whose arguments have long help) puts the help on the next lines,
indented by ten columns, with a blank line between entries and the fixed values of
an option listed one per line with their help.

Beside an argument's help stand its notes: the environment variable that can set
it (with the variable's current value), and in the summary form the fixed values
it accepts.
-/

namespace DigitPalindrome

namespace Cmdline

/-- The usage line of a command: its name, `[OPTIONS]` when it has options other
than help and version, its positional arguments, and `<COMMAND>` for a command
with required subcommands. -/
def helpUsage (c : CommandSpec) (withSubcommands : Bool) : String :=
  let hasOptions := c.options.any fun a =>
    a.long != some "help" && a.long != some "version" && !a.required
  let positionals := c.positionals.map fun a => " " ++ a.display
  c.usageName ++ (if hasOptions then " [OPTIONS]" else "") ++ String.join positionals ++
    (if withSubcommands then " <COMMAND>" else "")

/-- The left column of an argument: `-o, --output <OUTPUT>`, `    --config <PATH>`
or `<INTEGER>`. -/
def argLeftColumn (a : ArgSpec) : String :=
  if a.isPositional then a.display
  else
    let shortPart := match a.short, a.long with
      | some s, some _ => "-" ++ s.toString ++ ", "
      | some s, none => "-" ++ s.toString
      | none, _ => "    "
    let longPart := match a.long with
      | some l => "--" ++ l
      | none => ""
    let valuePart := if a.takesValue then " <" ++ a.placeholder ++ ">" else ""
    shortPart ++ longPart ++ valuePart

/-- The width an argument claims for the alignment of the summary. -/
def argWidth (a : ArgSpec) : Nat :=
  if a.isPositional then a.display.length else a.display.length + 4

/-- The notes beside an argument's help: its environment variable with the
current value, and, unless its values are listed one per line, its fixed values.
Notes are separated by a space in the summary and by a newline in the long form. -/
def argNotes (env : String → Option String) (long : Bool) (a : ArgSpec) : String :=
  let envNote := match a.env with
    | some var => ["[env: " ++ var ++ "=" ++ (env var).getD "" ++ "]"]
    | none => []
  let listedApart := long && a.choicesHaveHelp
  let valuesNote :=
    if !a.choices.isEmpty && !listedApart then
      ["[possible values: " ++ ", ".intercalate (a.choices.map Choice.name) ++ "]"]
    else []
  (if long then "\n" else " ").intercalate (envNote ++ valuesNote)

/-- The help of an argument with its notes, wrapped to what is left of the width
after `column` and indented to `column`. -/
def helpBlock (width column : Nat) (help notes : String) (long : Bool) : String :=
  let text :=
    if notes.isEmpty then help
    else if help.isEmpty then notes
    else help ++ (if long then "\n\n" else " ") ++ notes
  indentRest (spaces column) (wrapText (width - column) text)

/-- The fixed values of an option, one per line with their help, in the long form. -/
def choicesBlock (width : Nat) (a : ArgSpec) : String :=
  let longest := (a.choices.map fun c => c.name.length).foldl max 0
  let entry (c : Choice) : String :=
    let text := c.name ++ ": " ++ spaces (longest - c.name.length) ++ c.help
    "\n" ++ spaces 10 ++ "- " ++ indentRest (spaces 12) (wrapText (width - 12) text)
  "\n\n" ++ spaces 10 ++ "Possible values:" ++ String.join (a.choices.map entry)

/-- One argument's entry in a help section. -/
def argEntry (width : Nat) (env : String → Option String) (long : Bool) (longest : Nat)
    (a : ArgSpec) : String :=
  let help := if long then a.longHelp.getD a.help else a.help
  let notes := argNotes env long a
  if long then
    "  " ++ argLeftColumn a ++ "\n" ++ spaces 10 ++ helpBlock width 10 help notes true ++
      (if a.choicesHaveHelp then choicesBlock width a else "")
  else
    "  " ++ padRight longest (argLeftColumn a) ++ "  " ++ helpBlock width (longest + 4) help notes false

/-- A section listing arguments. -/
def argSection (width : Nat) (env : String → Option String) (long : Bool) (title : String)
    (args : List ArgSpec) : String :=
  let longest := (args.map argWidth).foldl max 2
  title ++ ":\n" ++ (if long then "\n\n" else "\n").intercalate (args.map (argEntry width env long longest))

/-- The section listing subcommands with their descriptions. -/
def commandSection (width : Nat) (commands : List CommandSpec) : String :=
  let longest := (commands.map fun c => c.name.length).foldl max 2
  let entry (c : CommandSpec) : String :=
    "  " ++ padRight longest c.name ++ "  " ++ helpBlock width (longest + 4) c.about "" false
  "Commands:\n" ++ "\n".intercalate (commands.map entry)

/-- The help of a command; `long` asks for the long form, which is used only when
some argument has long help. Subcommands are listed for the root. -/
def helpText (p : ProgramSpec) (env : String → Option String) (c : CommandSpec)
    (subcommands : List CommandSpec) (long : Bool) : String :=
  let long := long && c.hasLongHelp
  let sections :=
    (if subcommands.isEmpty then [] else [commandSection p.width subcommands]) ++
    (if c.positionals.isEmpty then [] else [argSection p.width env long "Arguments" c.positionals]) ++
    (if c.options.isEmpty then [] else [argSection p.width env long "Options" c.options])
  c.about ++ "\n\nUsage: " ++ helpUsage c (!subcommands.isEmpty) ++
    (if sections.isEmpty then "" else "\n\n" ++ "\n\n".intercalate sections) ++ "\n"

/-- The version line of a command. -/
def versionText (p : ProgramSpec) (c : CommandSpec) : String :=
  c.versionName ++ " " ++ p.version ++ "\n"

end Cmdline

end DigitPalindrome
