/-!
# The working directory

Settings files are read and written through a model of the file system as seen
from the working directory: the files and directories below it, and from the
root the few entries every system has (the usual top-level directories and the
null device `/dev/null`). A path is resolved one component at a time, the way the
operating system does it: `.` stays, `..` goes up (above the working directory
nothing is known to exist but directories), a missing component is "No such file
or directory", and a file used as a directory is "Not a directory". Nothing can be
created outside the working directory.
-/

namespace DigitPalindrome

/-- The operating-system errors of the file operations. -/
inductive IoError where
  | notFound
  | notADirectory
  | isADirectory
  | alreadyExists
  | permissionDenied
  /-- Any other error, by its number and text. -/
  | other (code : Nat) (text : String)
  /-- An error that the operating system did not report, by its text. -/
  | uncategorized (text : String)
  deriving DecidableEq, Repr

namespace IoError

/-- The text of an operating-system error, with its error number. -/
def message : IoError → String
  | notFound => "No such file or directory (os error 2)"
  | notADirectory => "Not a directory (os error 20)"
  | isADirectory => "Is a directory (os error 21)"
  | alreadyExists => "File exists (os error 17)"
  | permissionDenied => "Permission denied (os error 13)"
  | other code text => text ++ " (os error " ++ toString code ++ ")"
  | uncategorized text => text

/-- The error with an error number, `text` describing it when it is none of the
named ones. -/
def ofCode (code : Nat) (text : String) : IoError :=
  match code with
  | 2 => notFound
  | 13 => permissionDenied
  | 17 => alreadyExists
  | 20 => notADirectory
  | 21 => isADirectory
  | _ => other code text

end IoError

/-- What a path names. -/
inductive Entry where
  | file (content : String)
  | directory
  /-- The null device: it reads as empty and takes whatever is written to it. -/
  | nullDevice
  deriving DecidableEq, Repr

/-- The files and directories below the working directory, each named by its
components. The working directory itself is the empty path. -/
structure Disk where
  entries : List (List String × Entry)
  deriving Repr

/-- A path as written: whether it starts at the root, its non-empty components
(`.` and `..` kept), and whether it ends with a slash. -/
structure PathSpec where
  absolute : Bool
  parts : List String
  trailingSlash : Bool
  deriving DecidableEq, Repr

namespace PathSpec

/-- Split a path at its slashes. -/
def parse (s : String) : PathSpec :=
  let parts := (s.splitOn "/").filter fun part => !part.isEmpty
  { absolute := s.startsWith "/", parts, trailingSlash := s.endsWith "/" && !parts.isEmpty }

end PathSpec

/-- Whether a piece of a path between slashes names no component: it is empty (a
repeated or trailing slash) or `.`. -/
def skippedPiece (piece : String) : Bool := piece.isEmpty || piece == "."

/-- Pieces of a path without the trailing ones that name no component. -/
def trimPieces (pieces : List String) : List String :=
  (pieces.reverse.dropWhile skippedPiece).reverse

/-- The parent of a path as the standard library computes it, by components: the
text before the last component, without trailing slashes and `.` components.
A `.` inside or at the end of a path is no component, but a leading `./` is the
current directory. The parent of a single component is the empty path; the root
and the empty path have none. -/
def pathParent (s : String) : Option String :=
  let rooted := s.startsWith "/"
  let leadingDot := !rooted && (s == "." || s.startsWith "./")
  let lead := if rooted then "/" else if leadingDot then "." else ""
  let body := String.ofList (s.toList.drop lead.length)
  match trimPieces (body.splitOn "/") with
  | [] => if leadingDot then some "" else none
  | pieces => some (lead ++ "/".intercalate (trimPieces pieces.dropLast))

/-- The entries outside the working directory that are known, by their
components from the root: the usual top-level directories, and the null device. -/
def systemEntries : List (List String × Entry) :=
  (["bin", "dev", "etc", "home", "lib", "proc", "sys", "tmp", "usr", "var"].map
    fun name => ([name], Entry.directory)) ++ [(["dev", "null"], .nullDevice)]

/-- A directory reached while resolving a path: one below the working directory,
one above it reached by `..` (where nothing else is known), or one reached from
the root. -/
inductive Place where
  | inside (dir : List String)
  | outside
  | system (dir : List String)
  deriving DecidableEq, Repr

namespace Place

/-- The directory one level up; the root is its own parent. -/
def up : Place → Place
  | inside [] => outside
  | inside dir => inside dir.dropLast
  | outside => outside
  | system dir => system dir.dropLast

/-- The directory named `name` in this one. -/
def enter (place : Place) (name : String) : Place :=
  match place with
  | inside dir => inside (dir ++ [name])
  | outside => outside
  | system dir => system (dir ++ [name])

end Place

/-- What a whole path resolves to. -/
inductive Target where
  | directory (place : Place)
  | file (path : List String) (content : String)
  | device
  | missing (parent : Place) (name : String)
  deriving DecidableEq, Repr

namespace Disk

/-- The empty working directory. -/
def empty : Disk := ⟨[]⟩

/-- The entry at a path below the working directory; the working directory
itself is a directory. -/
def entry? (d : Disk) (path : List String) : Option Entry :=
  if path.isEmpty then some .directory
  else (d.entries.find? fun e => e.1 == path).map Prod.snd

/-- The disk with an entry set (replacing what was there). -/
def put (d : Disk) (path : List String) (e : Entry) : Disk :=
  ⟨(path, e) :: d.entries.filter fun old => old.1 != path⟩

/-- The entry named `name` in the directory `place`, when one is known. -/
def lookup (d : Disk) (place : Place) (name : String) : Option Entry :=
  match place with
  | .inside dir => d.entry? (dir ++ [name])
  | .outside => none
  | .system dir => (systemEntries.find? fun e => e.1 == dir ++ [name]).map Prod.snd

/-- The directory one component further, which must be a directory. -/
def step (d : Disk) (place : Place) (component : String) : Except IoError Place :=
  if component == "." then .ok place
  else if component == ".." then .ok place.up
  else
    match d.lookup place component with
    | some .directory => .ok (place.enter component)
    | some _ => .error .notADirectory
    | none => .error .notFound

/-- Walk through components that must all be directories. -/
def walk (d : Disk) : Place → List String → Except IoError Place
  | place, [] => .ok place
  | place, c :: cs =>
    match d.step place c with
    | .error e => .error e
    | .ok next => d.walk next cs

/-- What a path names. -/
def target (d : Disk) (p : PathSpec) : Except IoError Target :=
  let start : Place := if p.absolute then .system [] else .inside []
  match p.parts.reverse with
  | [] => if p.absolute then .ok (.directory start) else .error .notFound
  | last :: initReversed =>
    match d.walk start initReversed.reverse with
    | .error e => .error e
    | .ok place =>
      if last == "." || last == ".." then
        (d.step place last).map Target.directory
      else
        match d.lookup place last, place with
        | some .directory, _ => .ok (.directory (place.enter last))
        | some (.file content), .inside dir =>
          if p.trailingSlash then .error .notADirectory else .ok (.file (dir ++ [last]) content)
        | some (.file _), _ => .ok (.missing place last)
        | some .nullDevice, _ => if p.trailingSlash then .error .notADirectory else .ok .device
        | none, _ => .ok (.missing place last)

/-- Read a whole file. -/
def read (d : Disk) (path : String) : Except IoError String :=
  match d.target (PathSpec.parse path) with
  | .error e => .error e
  | .ok (.directory _) => .error .isADirectory
  | .ok (.file _ content) => .ok content
  | .ok .device => .ok ""
  | .ok (.missing _ _) => .error .notFound

/-- Whether a path names an existing file or directory. -/
def pathExists (d : Disk) (path : String) : Bool :=
  match d.target (PathSpec.parse path) with
  | .ok (.directory _) => true
  | .ok (.file _ _) => true
  | .ok .device => true
  | _ => false

/-- Whether a path names an existing directory. -/
def isDirectory (d : Disk) (p : PathSpec) : Bool :=
  match d.target p with
  | .ok (.directory _) => true
  | _ => false

/-- Create one directory, whose parent must exist. -/
def makeDirectory (d : Disk) (path : String) : Except IoError Disk :=
  match d.target (PathSpec.parse path) with
  | .error e => .error e
  | .ok (.directory _) => .error .alreadyExists
  | .ok (.file _ _) => .error .alreadyExists
  | .ok .device => .error .alreadyExists
  | .ok (.missing (.inside dir) name) => .ok (d.put (dir ++ [name]) .directory)
  | .ok (.missing _ _) => .error .permissionDenied

/-- Create a directory and every missing parent, with at most `fuel` levels: try
the directory itself; only when something on its way is missing, create its
parent first and try again. A directory that exists in the end is no error. -/
def makeDirectories (d : Disk) : Nat → String → Except IoError Disk
  | 0, _ => .error (.uncategorized "failed to create whole tree")
  | fuel + 1, path =>
    if path.isEmpty then .ok d
    else
      match d.makeDirectory path with
      | .ok d' => .ok d'
      | .error .notFound =>
        match pathParent path with
        | none => .error (.uncategorized "failed to create whole tree")
        | some parent =>
          match d.makeDirectories fuel parent with
          | .error e => .error e
          | .ok d' =>
            match d'.makeDirectory path with
            | .ok d'' => .ok d''
            | .error e => if d'.isDirectory (PathSpec.parse path) then .ok d' else .error e
      | .error e => if d.isDirectory (PathSpec.parse path) then .ok d else .error e

/-- Create a directory path with all its parents. Each parent is shorter than its
path, so the path's length bounds the levels. -/
def createDirAll (d : Disk) (path : String) : Except IoError Disk :=
  d.makeDirectories (path.length + 1) path

/-- Write a whole file, creating or replacing it; its directory must exist. -/
def write (d : Disk) (path : String) (content : String) : Except IoError Disk :=
  let p := PathSpec.parse path
  match d.target p with
  | .error e => .error e
  | .ok (.directory _) => .error .isADirectory
  | .ok (.file location _) => .ok (d.put location (.file content))
  | .ok .device => .ok d
  | .ok (.missing (.inside dir) name) =>
    if p.trailingSlash then .error .isADirectory else .ok (d.put (dir ++ [name]) (.file content))
  | .ok (.missing _ _) => .error .permissionDenied

end Disk

end DigitPalindrome
