import Switchboard.Entries
import Switchboard.Text.Split
import Switchboard.Text.Utf8

/-!
# Files

The files that a program finds: texts of bytes under paths, which are lists of names from a common
base. A directory is there if it is listed or if a file is below it. Paths are walked name by name,
so that a file in the place of a directory is told from one that is missing.
-/

namespace Switchboard

/-- Why a file cannot be read as text. -/
inductive ReadFault where
  | missing
  | notDirectory
  | isDirectory
  | notText
  /-- The path holds a character that no path may hold. -/
  | badPath
  deriving DecidableEq, Repr

/-- The message of a fault. -/
def ReadFault.message : ReadFault → String
  | missing => "No such file or directory (os error 2)"
  | notDirectory => "Not a directory (os error 20)"
  | isDirectory => "Is a directory (os error 21)"
  | notText => "stream did not contain valid UTF-8"
  | badPath => "file name contained an unexpected NUL byte"

/-- Files, and directories that are there even if no file is below them. -/
structure Files where
  contents : List (List String × List UInt8)
  directories : List (List String)
  /-- The directory that relative paths start from. -/
  current : List String

namespace Files

/-- What stands at a path. -/
inductive Node where
  | file (bytes : List UInt8)
  | directory
  deriving DecidableEq, Repr

/-- What stands at a path of names, if anything does. -/
def node? (fs : Files) (path : List String) : Option Node :=
  match fs.contents.find? (·.1 = path) with
  | some (_, bytes) => some (.file bytes)
  | none =>
    let isAbove := fun (other : List String) => path.isPrefixOf other
    if fs.directories.any isAbove || fs.contents.any fun entry => isAbove entry.1 then
      some .directory
    else none

/-- Where a name leads from a directory. -/
def enter (here : List String) (name : String) : List String :=
  if name = "" ∨ name = "." then here
  else if name = ".." then here.dropLast
  else here ++ [name]

/-- Walks from a directory along names. -/
def walk (fs : Files) (here : List String) : List String → Except ReadFault Node
  | [] =>
    match fs.node? here with
    | some node => .ok node
    | none => .error .missing
  | name :: names =>
    match fs.node? here with
    | none => .error .missing
    | some (.file _) => .error .notDirectory
    | some .directory => fs.walk (enter here name) names

/-- Whether a path does not depend on the current directory. -/
def isAbsolute (path : String) : Bool := path.toList.head? == some '/'

/-- Where a path starts, and the names that it leads along; they stand between slashes. -/
def route (fs : Files) (path : String) : List String × List String :=
  match path.toList with
  | '/' :: rest => ([], (Text.splitOn '/' rest).map String.ofList)
  | s => (fs.current, (Text.splitOn '/' s).map String.ofList)

/-- What stands at a path as it is written. -/
def resolve (fs : Files) (path : String) : Except ReadFault Node :=
  if path.isEmpty then .error .missing
  else if path.toList.contains '\x00' then .error .badPath
  else fs.walk (fs.route path).1 (fs.route path).2

/-- Whether there is anything at a path. -/
def exists? (fs : Files) (path : String) : Bool := (fs.resolve path).isOk

/-- Reads a file as text. -/
def readText (fs : Files) (path : String) : Except ReadFault String :=
  match fs.resolve path with
  | .error fault => .error fault
  | .ok .directory => .error .isDirectory
  | .ok (.file bytes) =>
    match Text.Utf8.decodeStrict? bytes with
    | some text => .ok text
    | none => .error .notText

/-! ## Putting files in place -/

/-- The path that a name in a directory has. -/
def join (directory name : String) : String :=
  if directory.toList.getLast? = some '/' then directory ++ name else directory ++ "/" ++ name

/-- No files, seen from a directory. -/
def emptyAt (current : List String) : Files := ⟨[], [current], current⟩

/-- The place that a path leads to. -/
def place (fs : Files) (path : String) : List String :=
  (fs.route path).2.foldl enter (fs.route path).1

/-- Puts a file at a path. -/
def withFile (path : String) (bytes : List UInt8) (fs : Files) : Files :=
  { fs with contents := fs.contents ++ [(fs.place path, bytes)] }

/-- Puts a directory at a path. -/
def withDirectory (path : String) (fs : Files) : Files :=
  { fs with directories := fs.directories ++ [fs.place path] }

/-- The beginnings of a path that end before a slash, and the path itself. What has been passed
over is kept in reverse. -/
def beginningsFrom (passed : List Char) : List Char → List String
  | [] => [String.ofList passed.reverse]
  | c :: rest =>
    let later := beginningsFrom (c :: passed) rest
    if c = '/' then String.ofList passed.reverse :: later else later

/-- The paths of all places that a path leads through. -/
def beginnings (path : String) : List String := beginningsFrom [] path.toList

end Files

end Switchboard
