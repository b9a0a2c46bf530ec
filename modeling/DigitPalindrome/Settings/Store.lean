import DigitPalindrome.Files
import DigitPalindrome.Settings.Basic

/-!
# The settings file

Settings live in a JSON file: the one named on the command line, or `settings.json` in
the tool's configuration directory. Where that directory is, and whether there is one,
is the platform's answer, so it is given to these functions, as is the reader that
turns the file's text into settings.

A missing file at the default place means the defaults, and so does a platform with no
configuration directory; a missing file that was named is an error. Only resolving the
path itself (for `config`) fails when there is no configuration directory. Saving
creates the file's directory first.
-/

namespace DigitPalindrome

/-- The failures of finding, loading and saving settings. -/
inductive ConfigError where
  /-- The platform has no configuration directory for the default settings file. -/
  | directoryNotFound
  /-- The file could not be read. -/
  | readFailed (path : String) (reason : IoError)
  /-- The file could not be written. -/
  | writeFailed (path : String) (reason : IoError)
  /-- The file is not valid settings: the reader's account of why. -/
  | invalidFormat (reason : String)
  /-- A directory could not be created. -/
  | io (error : IoError)
  deriving DecidableEq, Repr

namespace ConfigError

/-- The text of the error itself. -/
def message : ConfigError → String
  | directoryNotFound => "could not determine a configuration directory"
  | readFailed path reason => "failed to read " ++ path ++ ": " ++ reason.message
  | writeFailed path reason => "failed to write " ++ path ++ ": " ++ reason.message
  | invalidFormat reason => "invalid settings format: " ++ reason
  | io error => "IO error: " ++ error.message

/-- The error followed by the errors that caused it: a directory failure carries
the operating-system error as its cause. -/
def chain : ConfigError → List String
  | io error => ["IO error: " ++ error.message, error.message]
  | e => [e.message]

end ConfigError

namespace Settings

/-- A path with one more component. -/
def joinPath (base component : String) : String :=
  if base.endsWith "/" then base ++ component else base ++ "/" ++ component

/-- The settings file in a configuration directory. -/
def fileIn (configDir : String) : String :=
  joinPath configDir "settings.json"

/-- The settings file: the named one, or the one in the configuration directory, and
no file when neither is there. -/
def resolvePath (named configDir : Option String) : Except ConfigError String :=
  match named, configDir with
  | some path, _ => .ok path
  | none, some dir => .ok (fileIn dir)
  | none, none => .error .directoryNotFound

variable {m : Type → Type} [Monad m] (ops : FileOps m)
  (readSettings : String → Except String Settings)

/-- Read a settings file and turn its text into settings. -/
def loadFrom (path : String) : m (Except ConfigError Settings) := do
  match ← ops.read path with
  | .error reason => return .error (.readFailed path reason)
  | .ok text =>
    match readSettings text with
    | .ok s => return .ok s
    | .error reason => return .error (.invalidFormat reason)

/-- Load the settings: a named file must be readable; with no configuration directory,
or no file in it, the settings are the defaults. -/
def load (named configDir : Option String) : m (Except ConfigError Settings) := do
  match named, configDir with
  | some path, _ => loadFrom ops readSettings path
  | none, none => return .ok defaults
  | none, some dir =>
    if ← ops.pathExists (fileIn dir) then loadFrom ops readSettings (fileIn dir)
    else return .ok defaults

/-- Save settings as indented JSON, creating the file's directory first. -/
def saveTo (s : Settings) (path : String) : m (Except ConfigError Unit) := do
  if let some parent := pathParent path then
    if let .error e ← ops.createDirAll parent then return .error (.io e)
  match ← ops.write path s.toJson.render with
  | .ok () => return .ok ()
  | .error reason => return .error (.writeFailed path reason)

end Settings

end DigitPalindrome
