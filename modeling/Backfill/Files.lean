import Backfill.Text.Utf8

/-!
# Files

Two trees of files, one below the working directory and one below the root of the file system, as
far as the program reads them or adds to them. A path is walked name by name: each name but the last
must lead to a directory. Nothing is known of what lies above the working directory, so nothing is
found there. Below the root of the file system there is always the null device.
-/

namespace Backfill

/-- Why a file operation fails. -/
inductive FileFault where
  | notFound
  | exists_
  | notDirectory
  | isDirectory
  | nameTooLong
  | nulByte
  | notUtf8
deriving DecidableEq, Repr

def FileFault.text : FileFault → String
  | notFound => "No such file or directory (os error 2)"
  | exists_ => "File exists (os error 17)"
  | notDirectory => "Not a directory (os error 20)"
  | isDirectory => "Is a directory (os error 21)"
  | nameTooLong => "File name too long (os error 36)"
  | nulByte => "file name contained an unexpected NUL byte"
  | notUtf8 => "stream did not contain valid UTF-8"

/-- What a path ends with. After anything but a name it can only mean a directory. -/
inductive PathEnd where
  | name
  /-- A slash after the last name. -/
  | slash
  /-- A dot, which stands for the directory itself. -/
  | dot
deriving DecidableEq, Repr

/-- A path from the working directory, or from the root of the file system. -/
structure Path where
  absolute : Bool
  /-- The names, without empty ones and those that stand for the directory itself. -/
  names : List String
  ending : PathEnd
deriving DecidableEq, Repr

namespace Path

/-- The path that a text denotes; an empty text denotes none. -/
def ofString? (text : String) : Option Path :=
  if text.isEmpty then none
  else
    let pieces := text.splitOn "/"
    some
      { absolute := text.startsWith "/"
        names := pieces.filter fun piece => piece ≠ "" && piece ≠ "."
        ending :=
          if (pieces.filter (· ≠ "")).getLast? = some "." then .dot
          else if pieces.getLast? = some "" then .slash
          else .name }

/-- Where the walk of a path begins: a name of its own stands for the root of the file system. -/
def start (p : Path) : List String :=
  if p.absolute then ["/"] else []

/-- The names from the beginning of the walk on. -/
def steps (p : Path) : List String :=
  p.start ++ p.names

/-- The pieces of a path without those at the end that lead nowhere; the first is kept. -/
def trimEnd : List String → List String
  | [] => []
  | first :: pieces =>
    first :: (pieces.reverse.dropWhile fun piece => piece = "" || piece = ".").reverse

/-- The text of the path to the directory that holds what a path denotes. It is empty for a single
name. -/
def parent (text : String) : String :=
  match trimEnd (trimEnd (text.splitOn "/")).dropLast with
  | [""] => "/"
  | pieces => "/".intercalate pieces

end Path

/-- What stands under a name: bytes, or a directory. -/
inductive FileEntry where
  | file (bytes : List UInt8)
  | directory
deriving DecidableEq, Repr

/-- Files and directories by the names that lead to them. A directory that holds something need not
be listed. -/
structure Files where
  entries : List (List String × FileEntry) := []
deriving DecidableEq, Repr

namespace Files

/-- The longest name, in bytes. -/
def maxNameLength : Nat := 255

/-- The longest path, in bytes. -/
def maxPathLength : Nat := 4095

/-- A place that the walk of a path reaches. -/
inductive Place where
  /-- In a tree, by the names that lead there. -/
  | inside (names : List String)
  /-- Above the working directory. -/
  | outside
deriving DecidableEq, Repr

/-- The place of the null device, which is always empty, whatever is written to it. -/
def nullDevice : List String :=
  ["/", "dev", "null"]

/-- What stands in a place of the tree. -/
def entry? (fs : Files) (names : List String) : Option FileEntry :=
  if names = nullDevice then some (.file [])
  else
    match fs.entries.lookup names with
    | some entry => some entry
    | none =>
      if names = [] ∨ names.isPrefixOf nullDevice ∨
          fs.entries.any (fun (other, _) => names.isPrefixOf other) then
        some .directory
      else none

/-- One more name, from a place that must be a directory. -/
def enter (fs : Files) (place : Place) (name : String) : Except FileFault Place :=
  match place with
  | .outside => if name = ".." then .ok .outside else .error .notFound
  | .inside names =>
    match fs.entry? names with
    | none => .error .notFound
    | some (.file _) => .error .notDirectory
    | some .directory =>
      if name = ".." then
        .ok (if names = [] then .outside else if names = ["/"] then place else .inside names.dropLast)
      else if name.utf8ByteSize > maxNameLength then .error .nameTooLong
      else .ok (.inside (names ++ [name]))

/-- The place that a path leads to. Nothing need stand there. -/
def locate (fs : Files) (p : Path) : Except FileFault Place :=
  p.names.foldlM fs.enter (.inside p.start)

/-- What a path leads to. -/
def find (fs : Files) (p : Path) : Except FileFault FileEntry := do
  match ← fs.locate p with
  | .outside => return .directory
  | .inside names =>
    match fs.entry? names with
    | none => throw .notFound
    | some .directory => return .directory
    | some (.file bytes) => if p.ending = .name then return .file bytes else throw .notDirectory

/-- A path to work with. -/
def parsePath (text : String) : Except FileFault Path :=
  if text.any (· == '\x00') then .error .nulByte
  else if text.utf8ByteSize > maxPathLength then .error .nameTooLong
  else
    match Path.ofString? text with
    | some p => .ok p
    | none => .error .notFound

/-- The bytes of a file. -/
def read (fs : Files) (path : String) : Except FileFault (List UInt8) := do
  match ← fs.find (← parsePath path) with
  | .file bytes => return bytes
  | .directory => throw .isDirectory

/-- The text of a file. -/
def readText (fs : Files) (path : String) : Except FileFault String := do
  match Text.decodeUtf8 (← fs.read path) with
  | .ok text => return text
  | .error _ => throw .notUtf8

/-- The tree with something put in a place. -/
def put (fs : Files) (names : List String) (entry : FileEntry) : Files :=
  ⟨(names, entry) :: fs.entries.filter (·.1 ≠ names)⟩

/-- Makes the directories that names lead to from a place, as far as they are missing. -/
def makeFrom (fs : Files) (place : Place) : List String → Except FileFault Files
  | [] => .ok fs
  | name :: names => do
    let place ← fs.enter place name
    match place with
    | .outside => fs.makeFrom place names
    | .inside here =>
      match fs.entry? here with
      | some .directory => fs.makeFrom place names
      | some (.file _) => throw (if names.isEmpty then .exists_ else .notDirectory)
      | none => (fs.put here .directory).makeFrom place names

/-- Makes a directory and those above it, as far as they are missing. An empty path is the working
directory. -/
def makeDirectories (fs : Files) (path : String) : Except FileFault Files := do
  if path.isEmpty then return fs
  let p ← parsePath path
  fs.makeFrom (.inside p.start) p.names

/-- Opens a file to append to it, which makes it if it is missing. -/
def openAppend (fs : Files) (path : String) : Except FileFault Files := do
  let p ← parsePath path
  match p.ending with
  | .slash =>
    -- no file can be made under such a name, so what stands there does not matter
    let _ ← fs.find { p with names := p.names.dropLast }
    throw .isDirectory
  | .dot =>
    let _ ← fs.find p
    throw .isDirectory
  | .name =>
    match ← fs.locate p with
    | .outside => throw .isDirectory
    | .inside names =>
      match fs.entry? names with
      | some .directory => throw .isDirectory
      | some (.file _) => return fs
      | none => return fs.put names (.file [])

/-- Appends to a file that is open. -/
def append (fs : Files) (path : String) (text : String) : Files :=
  match parsePath path with
  | .error _ => fs
  | .ok p =>
    match fs.locate p, fs.read path with
    | .ok (.inside names), .ok bytes => fs.put names (.file (bytes ++ text.toUTF8.toList))
    | _, _ => fs

/-- A tree of the given files and directories. -/
def ofList (entries : List (String × FileEntry)) : Files :=
  ⟨entries.filterMap fun (path, entry) =>
    (Path.ofString? path).map fun p => (p.steps, entry)⟩

end Files

end Backfill
