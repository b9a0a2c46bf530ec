import DigitPalindrome.Disk

/-!
# File operations and output streams

The tool touches files through four operations: read a whole file, ask whether a
path exists, create a directory with its parents, and write a whole file. It talks
through two output streams: lines printed to standard output, which cannot fail as far
as the tool can tell (a failed print stops the program), text written to standard
output through a writer that reports a failure, and lines printed to standard error.

Both are records over any monad, so the same command runs against the model of the
working directory and its streams (a state of `World`) and against the real system.
-/

namespace DigitPalindrome

/-- The file operations the tool needs, in the monad `m`. -/
structure FileOps (m : Type → Type) where
  /-- Read a whole file. -/
  read : String → m (Except IoError String)
  /-- Whether a path names an existing file or directory. -/
  pathExists : String → m Bool
  /-- Create a directory and all its missing parents. -/
  createDirAll : String → m (Except IoError Unit)
  /-- Create or replace a whole file. -/
  write : String → String → m (Except IoError Unit)

/-- The output streams the tool writes to, in the monad `m`. -/
structure Console (m : Type → Type) where
  /-- Print to standard output. -/
  print : String → m Unit
  /-- Write to standard output, reporting a failure of the stream. -/
  write : String → m (Except IoError Unit)
  /-- Print to standard error. -/
  printError : String → m Unit

/-- What a run of the tool sees and changes: the working directory, and the text
written so far to standard output and to standard error. -/
structure World where
  disk : Disk
  stdout : String
  stderr : String

namespace World

/-- The world after `text` is added to standard output. -/
def toStdout (w : World) (text : String) : World := { w with stdout := w.stdout ++ text }

/-- The world after `text` is added to standard error. -/
def toStderr (w : World) (text : String) : World := { w with stderr := w.stderr ++ text }

/-- The file operations on the working directory of the world. -/
def fileOps : FileOps (StateM World) where
  read path := do return (← get).disk.read path
  pathExists path := do return (← get).disk.pathExists path
  createDirAll path := do
    let w ← get
    match w.disk.createDirAll path with
    | .ok d => set { w with disk := d }; return .ok ()
    | .error e => return .error e
  write path content := do
    let w ← get
    match w.disk.write path content with
    | .ok d => set { w with disk := d }; return .ok ()
    | .error e => return .error e

/-- The streams of the world, which take every text written to them. -/
def console : Console (StateM World) where
  print text := modify (·.toStdout text)
  write text := do
    modify (·.toStdout text)
    return .ok ()
  printError text := modify (·.toStderr text)

end World

end DigitPalindrome
