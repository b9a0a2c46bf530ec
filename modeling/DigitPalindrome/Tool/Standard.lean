import DigitPalindrome.Tool.Run
import DigitPalindrome.Settings.Decode
import DigitPalindrome.Cmdline.Terminal

/-!
# The tool on its standard libraries

The libraries the executable is built with, in the form the tool takes them: the
command line is matched by the parser of `Cmdline` against the tool's `program`,
settings text is read by `Settings.decode`, and the configuration directory is found
from the environment the way the platform's directory library finds it on Linux.
-/

namespace DigitPalindrome

namespace Tool

/-- What a command line that stops before any work shows: help and version on
standard output with status 0, the help shown for an empty command line and
command-line mistakes on standard error with status 2. These texts are written
through a stream that drops terminal controls. -/
def Outcome.ofStop : Cmdline.Stop → Outcome
  | .showHelp text => ⟨0, Cmdline.withoutControls text, ""⟩
  | .showVersion text => ⟨0, Cmdline.withoutControls text, ""⟩
  | .helpOnEmpty text => ⟨2, "", Cmdline.withoutControls text⟩
  | .mistake e => ⟨2, "", Cmdline.withoutControls e.render⟩

/-- Read a command line with the argument parser; the environment `env` supplies what
the command line leaves out. -/
def parseCommandLine (env : String → Option String) (args : List String) :
    Except Outcome Invocation :=
  match Cmdline.matchArgs program env args with
  | .error stop => .error (Outcome.ofStop stop)
  | .ok found => .ok (Invocation.ofMatches found)

/-- The home directory: `HOME`, when it is set and not empty. -/
def homeDir (env : String → Option String) : Option String :=
  match env "HOME" with
  | some home => if home.isEmpty then none else some home
  | none => none

/-- The tool's configuration directory: `digipal` in `XDG_CONFIG_HOME` when that is an
absolute path, else in `.config` under the home directory; there is none without a
home directory. -/
def configDirOf (env : String → Option String) : Option String :=
  (homeDir env).map fun home =>
    let base :=
      match env "XDG_CONFIG_HOME" with
      | some dir => if dir.startsWith "/" then dir else Settings.joinPath home ".config"
      | none => Settings.joinPath home ".config"
    Settings.joinPath base "digipal"

/-- The platform of the executable in the environment `env`. -/
def standardPlatform (env : String → Option String) : Platform where
  readSettings text :=
    match Settings.decode text with
    | .ok s => .ok s
    | .error e => .error e.message
  configDir := configDirOf env

end Tool

end DigitPalindrome
