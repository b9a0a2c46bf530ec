import DigitPalindrome.Tool.Standard

/-!
# The executable

The program runs the tool on its command line against the real file system, streams
and environment, and exits with the tool's status.
-/

namespace DigitPalindrome

/-- The operating-system error behind an error of the runtime. -/
def systemError (e : IO.Error) : IoError :=
  match e with
  | .alreadyExists _ c d | .otherError c d | .resourceBusy c d | .resourceVanished c d
  | .unsupportedOperation c d | .hardwareFault c d | .unsatisfiedConstraints c d
  | .illegalOperation c d | .protocolError c d | .timeExpired c d | .interrupted _ c d
  | .noFileOrDirectory _ c d | .invalidArgument _ c d | .permissionDenied _ c d
  | .resourceExhausted _ c d | .inappropriateType _ c d | .noSuchThing _ c d =>
    IoError.ofCode c.toNat d
  | .unexpectedEof => .other 0 "end of file"
  | .userError message => .other 0 message

/-- The file operations on the real file system. A path exists when it can be
opened. -/
def systemFileOps : FileOps IO where
  read path := do
    try return .ok (← IO.FS.readFile path)
    catch e => return .error (systemError e)
  pathExists path := do
    try
      let _ ← IO.FS.Handle.mk path .read
      return true
    catch _ => return false
  createDirAll path := do
    try
      IO.FS.createDirAll path
      return .ok ()
    catch e => return .error (systemError e)
  write path content := do
    try
      IO.FS.writeFile path content
      return .ok ()
    catch e => return .error (systemError e)

/-- The output streams of the process. A failed print stops the program. -/
def systemConsole : Console IO where
  print text := IO.print text
  write text := do
    try
      IO.print text
      return .ok ()
    catch e => return .error (systemError e)
  printError text := IO.eprint text

end DigitPalindrome

/-- Run the tool on the command line. -/
def main (args : List String) : IO UInt32 := do
  let configName := DigitPalindrome.Tool.configVariable
  let home ← IO.getEnv "HOME"
  let configHome ← IO.getEnv "XDG_CONFIG_HOME"
  let named ← IO.getEnv configName
  let env : String → Option String := fun name =>
    if name == "HOME" then home
    else if name == "XDG_CONFIG_HOME" then configHome
    else if name == configName then named
    else none
  let status ← DigitPalindrome.Tool.main DigitPalindrome.systemFileOps
    DigitPalindrome.systemConsole (DigitPalindrome.Tool.standardPlatform env)
    (DigitPalindrome.Tool.parseCommandLine env) args
  return status.toUInt32
