import DigitPalindrome.Cmdline.Parse
import DigitPalindrome.Settings.Basic

/-!
# The command line of the tool

The tool has three commands: `check` asks whether an integer's digits form a
palindrome, `longest` finds their longest palindromic run, and `config` shows or
writes the settings file. Every command accepts `--verbose`, `--quiet` (the two
exclude each other) and `--config <PATH>`, which may also come from the
environment variable `DIGIPAL_CONFIG`.

A matched command line is read into an `Invocation`, which says what to do.
`--verbose` only raises the level of the tool's log lines on standard error, which
are not part of what the tool shows, so the invocation does not keep it.
-/

namespace DigitPalindrome

namespace Tool

open Cmdline

/-- The version of the tool. -/
def version : String := "0.2.0"

/-- The environment variable naming the settings file. -/
def configVariable : String := "DIGIPAL_CONFIG"

/-- The arguments every command accepts. -/
def globalArgs : List ArgSpec :=
  [ { id := "verbose", short := some 'v', long := some "verbose", action := .setTrue,
      help := "Enable verbose output", global := true },
    { id := "quiet", short := some 'q', long := some "quiet", action := .setTrue,
      help := "Suppress non-essential output", global := true, conflictsWith := ["verbose"] },
    { id := "config", long := some "config", valueName := some "PATH", action := .set,
      help := "Path to custom configuration file", global := true, env := some configVariable,
      refuseEmpty := true } ]

/-- The help switch; `withLongHelp` for commands whose help has a long form. -/
def helpArg (withLongHelp : Bool) : ArgSpec :=
  if withLongHelp then
    { id := "help", short := some 'h', long := some "help", action := .help,
      help := "Print help (see more with '--help')",
      longHelp := some "Print help (see a summary with '-h')" }
  else
    { id := "help", short := some 'h', long := some "help", action := .help, help := "Print help" }

/-- The version switch. -/
def versionArg : ArgSpec :=
  { id := "version", short := some 'V', long := some "version", action := .version,
    help := "Print version" }

/-- The formats a report can be written in. -/
def formatChoices : List Choice :=
  [ ⟨"plain", "Human-readable plain text"⟩, ⟨"json", "JSON structured output"⟩,
    ⟨"csv", "CSV format for data analysis"⟩ ]

/-- The arguments of a command that analyzes an integer. -/
def analysisArgs : List ArgSpec :=
  [ { id := "value", valueName := some "INTEGER", action := .set,
      help := "Non-negative integer to analyze (any number of digits)", required := true,
      allowNegativeNumbers := true },
    { id := "output", short := some 'o', long := some "output", action := .set,
      help := "Output format for results (defaults to the configured format)",
      choices := formatChoices } ]

/-- A subcommand with the global arguments and the help and version switches
after its own arguments, which form its one group. -/
def subcommand (name : String) (aliases : List String) (about : String) (own : List ArgSpec) :
    CommandSpec :=
  let withLongHelp := own.any fun a => a.longHelp.isSome || a.choicesHaveHelp
  { name, aliases, about, usageName := "digipal " ++ name, versionName := "digipal-" ++ name,
    args := own ++ globalArgs ++ [helpArg withLongHelp, versionArg]
    groups := [⟨name ++ "-arguments", own.map ArgSpec.id⟩] }

/-- The `check` command. -/
def checkCommand : CommandSpec :=
  subcommand "check" ["c", "palindrome-check"]
    "Check whether the digits of an integer form a palindrome" analysisArgs

/-- The `longest` command. -/
def longestCommand : CommandSpec :=
  subcommand "longest" ["l", "longest-palindrome"]
    "Find the longest palindromic run of digits in an integer" analysisArgs

/-- The `config` command. -/
def configCommand : CommandSpec :=
  subcommand "config" [] "Show or initialize the settings file"
    [ { id := "init", long := some "init", action := .setTrue,
        help := "Write default settings to the settings file" },
      { id := "force", long := some "force", action := .setTrue,
        help := "Overwrite an existing settings file when used with --init", requires := ["init"] } ]

/-- The `help` command, which prints the help of the program or of a command. -/
def helpCommand : CommandSpec :=
  { name := "help", about := "Print this message or the help of the given subcommand(s)",
    usageName := "digipal help", versionName := "digipal-help",
    args := [ { id := "subcommand", valueName := some "COMMAND", action := .append,
                help := "Print help for the subcommand(s)" } ] }

/-- The whole command line of the tool. -/
def program : ProgramSpec :=
  { root := { name := "digipal", about := "Palindrome analysis for integer digits",
              usageName := "digipal", versionName := "digipal",
              args := globalArgs ++ [helpArg false, versionArg]
              groups := [⟨"digipal-arguments", globalArgs.map ArgSpec.id⟩] },
    commands := [checkCommand, longestCommand, configCommand, helpCommand],
    version }

/-- What the tool was asked to do. -/
inductive Task where
  /-- Check whether the integer's digits form a palindrome. -/
  | check (integer : String) (format : Option OutputFormat)
  /-- Find the longest palindromic run of the integer's digits. -/
  | longest (integer : String) (format : Option OutputFormat)
  /-- Show the settings, or write the default settings (`init`), replacing an
  existing file only when `force` is given. -/
  | config (init force : Bool)
  deriving DecidableEq, Repr

/-- A command line read into what it asks for. -/
structure Invocation where
  /-- Leave out the lines that only inform. -/
  quiet : Bool
  /-- The settings file named on the command line or in the environment. -/
  configPath : Option String
  task : Task
  deriving DecidableEq, Repr

/-- Read a matched command line. The integer of `check` and `longest` is required,
so matching has made sure it is there. -/
def Invocation.ofMatches (m : Matches) : Invocation :=
  let integer := (m.value? "value").getD ""
  let format := (m.value? "output").bind OutputFormat.ofName?
  let task :=
    if m.command.name == "check" then Task.check integer format
    else if m.command.name == "longest" then Task.longest integer format
    else Task.config (m.flag "init") (m.flag "force")
  { quiet := m.flag "quiet", configPath := m.value? "config", task }

end Tool

end DigitPalindrome
