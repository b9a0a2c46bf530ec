import DigitPalindrome.Tool.Interface
import DigitPalindrome.Report.Format
import DigitPalindrome.Settings.Store
import DigitPalindrome.Literal

/-!
# Running the tool

The program reads its command line with the argument parser it is given. A command
line the parser refuses ends the program with what the parser shows. An accepted one
runs its command over the file operations and the two output streams, each text
written at the step that produces it. A failure prints `Error: ` and the chain of its
causes, outermost first and joined by `: `, on standard error, and ends with status 1.

`check` and `longest` load the settings first (a failure there is reported as a
failure to load settings), then read the integer, then write the report in the format
named on the command line or else the one the settings choose. `config` finds the
settings file, then shows the settings after a line naming the file, or with `--init`
writes the defaults and then says so.

What the tool takes from the libraries it is built on is given to it: the argument
parser, and in a `Platform` the reader of settings text and the configuration
directory.
-/

namespace DigitPalindrome

namespace Tool

/-- What a program shows when it stops: its exit status and the text of its two output
streams. -/
structure Outcome where
  exit : Nat
  stdout : String
  stderr : String
  deriving DecidableEq, Repr

/-- What the tool takes from the platform it runs on: the reader that turns settings
text into settings, or says why the text holds none, and the tool's configuration
directory, when the platform has one. -/
structure Platform where
  readSettings : String → Except String Settings
  configDir : Option String

/-- A failure: the error and the errors that caused it, outermost first. -/
abbrev Failure := List String

/-- The report of a failure on standard error. -/
def Failure.render (f : Failure) : String := "Error: " ++ ": ".intercalate f ++ "\n"

/-- A failure of standard output, with the stream's error as its cause. -/
def outputFailure (e : IoError) : Failure := ["output error: " ++ e.message, e.message]

/-- The report an analysis writes of a sequence under settings, in the format named on
the command line or else the one the settings choose; `config` writes no report. -/
def Task.report : Task → Settings → DigitSeq → String
  | .check _ format, s, seq => (CheckReport.ofSeq seq).write (format.getD s.defaultFormat) s
  | .longest _ format, s, seq => (LongestReport.ofSeq seq).write (format.getD s.defaultFormat) s
  | .config _ _, _, _ => ""

variable {m : Type → Type} [Monad m] (ops : FileOps m) (con : Console m) (plat : Platform)

/-- Write text to standard output; a failure of the stream is the tool's. -/
def emit (text : String) : m (Except Failure Unit) := do
  match ← con.write text with
  | .ok () => return .ok ()
  | .error e => return .error (outputFailure e)

/-- Load the settings for an analysis. -/
def loadSettings (named : Option String) : m (Except Failure Settings) := do
  match ← Settings.load ops plat.readSettings named plat.configDir with
  | .ok s => return .ok s
  | .error e => return .error ("failed to load settings" :: e.chain)

/-- Read the integer, then write the report that `report` makes of it. -/
def analyze (integer : String) (report : DigitSeq → String) : m (Except Failure Unit) :=
  match DigitSeq.parse integer with
  | .error e => return .error [e.message]
  | .ok seq => emit con (report seq)

/-- Write the default settings to `path`, then say so unless `quiet`; an existing file
is replaced only when `force` is given. -/
def writeDefaults (path : String) (force quiet : Bool) : m (Except Failure Unit) := do
  if (← ops.pathExists path) && !force then
    return .error ["settings file " ++ path ++ " already exists (use --force to overwrite)"]
  match ← Settings.saveTo ops Settings.defaults path with
  | .error e => return .error e.chain
  | .ok () =>
    unless quiet do con.print ("✓ Wrote default settings to " ++ path ++ "\n")
    return .ok ()

/-- Load the settings, print a line naming their file `path` unless `quiet`, then write
them as JSON. -/
def showSettings (named : Option String) (path : String) (quiet : Bool) :
    m (Except Failure Unit) := do
  match ← Settings.load ops plat.readSettings named plat.configDir with
  | .error e => return .error e.chain
  | .ok s =>
    unless quiet do
      let origin := if ← ops.pathExists path then "" else " (not present, showing defaults)"
      con.print ("ℹ Settings file: " ++ path ++ origin ++ "\n")
    emit con (s.toJson.render ++ "\n")

/-- `config`: find the settings file, then write the defaults there (`init`) or show
the settings. -/
def configure (named : Option String) (init force quiet : Bool) : m (Except Failure Unit) :=
  match Settings.resolvePath named plat.configDir with
  | .error e => return .error e.chain
  | .ok path =>
    if init then writeDefaults ops con path force quiet
    else showSettings ops con plat named path quiet

/-- Carry out an invocation. -/
def run (inv : Invocation) : m (Except Failure Unit) := do
  match inv.task with
  | .config init force => configure ops con plat inv.configPath init force inv.quiet
  | .check integer _ | .longest integer _ =>
    match ← loadSettings ops plat inv.configPath with
    | .error f => return .error f
    | .ok s => analyze con integer (inv.task.report s)

/-- The program on a command line (without the program name): read it with
`parseArgs`, then carry out the invocation and report a failure on standard error.
The result is the exit status. -/
def main (parseArgs : List String → Except Outcome Invocation) (args : List String) :
    m Nat := do
  match parseArgs args with
  | .error stop =>
    con.print stop.stdout
    con.printError stop.stderr
    return stop.exit
  | .ok inv =>
    match ← run ops con plat inv with
    | .ok () => return 0
    | .error f =>
      con.printError f.render
      return 1

end Tool

end DigitPalindrome
