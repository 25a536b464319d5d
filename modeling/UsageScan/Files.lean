/-!
# Files

What a program can do with files: read one as a whole, and replace one as a whole. Both may fail,
and a failed write changes nothing. A store of files in memory gives every path its meaning.

A path is followed part by part, from the root if it begins with a slash and from the working
directory otherwise. Every part but the last has to lead to a directory, also where two dots go back
from it at once. Paths and names are of limited length, and no path holds the null character.

## Main definitions

* `Files.Fault` — why a file could not be read or written
* `FileAccess` — reading and writing files
* `Files` — files and directories in memory
* `Files.read`, `Files.write` — reading and writing them
* `Files.makeDirectory`, `Files.add` — making what lies on the way to a directory or a file as well
-/

set_option autoImplicit false

namespace UsageScan

/-- Why a file could not be read or written. -/
inductive Files.Fault where
  | notFound
  | isADirectory
  | notADirectory
  /-- The path holds the null character. -/
  | nullInPath
  /-- The path, or a name in it, is too long. -/
  | nameTooLong
  /-- The contents are not the text that was asked for. -/
  | invalidData
  | other
deriving DecidableEq, Repr

/-- Reading and writing files, each as a whole. -/
class FileAccess (m : Type → Type) where
  read : String → m (Except Files.Fault ByteArray)
  write : String → ByteArray → m (Except Files.Fault Unit)

/-- What a path can lead to. -/
inductive Files.Entry where
  | file (contents : ByteArray)
  | directory

/-- Files and directories in memory, each under the names that lead to it from the root. The working
directory and those above it are directories without entries of their own. -/
structure Files where
  workingDirectory : List String
  entries : List (List String × Files.Entry)

namespace Files

/-- The store that holds nothing but a working directory. -/
def empty : Files :=
  ⟨["home", "work"], []⟩

/-- The names that lead on from the working directory, if some names lead through it. -/
def relative? (fs : Files) (names : List String) : Option (List String) :=
  let depth := fs.workingDirectory.length
  if names.take depth = fs.workingDirectory then some (names.drop depth) else none

/-- What lies under some names. -/
def find? (fs : Files) (names : List String) : Option Entry :=
  if fs.workingDirectory.take names.length = names then some .directory
  else (fs.entries.find? (·.1 == names)).map Prod.snd

/-- Puts an entry under some names, in the place of the one that lay there if there was one. -/
def put (fs : Files) (names : List String) (entry : Entry) : Files :=
  if fs.entries.any (·.1 == names) then
    { fs with entries := fs.entries.map fun e => if e.1 = names then (names, entry) else e }
  else { fs with entries := fs.entries ++ [(names, entry)] }

/-- The parts of a path between slashes. An empty part counts for nothing. -/
def parts (path : String) : List String :=
  (path.splitOn "/").filter (· ≠ "")

/-- Where a path begins. -/
def origin (fs : Files) (path : String) : List String :=
  if path.startsWith "/" then [] else fs.workingDirectory

/-- Whether a path names a directory by ending in a slash. -/
def endsInSlash (path : String) : Bool :=
  path.toList.getLast? == some '/'

/-- The names that one more part of a path leads to: a dot stays, two dots go back, if only to the
root. -/
def advance (here : List String) (part : String) : List String :=
  if part = "." then here else if part = ".." then here.dropLast else here ++ [part]

/-- The number of bytes that a name may have. -/
def maxNameSize : Nat :=
  255

/-- The number of bytes that a path may have. -/
def maxPathSize : Nat :=
  4095

/-- Refuses a path that cannot lead anywhere, whatever the store holds. -/
def checkPath (path : String) : Except Fault Unit :=
  if path.contains '\x00' then .error .nullInPath
  else if maxPathSize < path.utf8ByteSize then .error .nameTooLong
  else .ok ()

/-- Follows the parts of a path from a place. All but the last have to lead to directories, and
nothing need lie under the names that the path leads to. -/
def follow (fs : Files) (here : List String) : List String → Except Fault (List String)
  | [] => .ok here
  | part :: parts =>
    match fs.find? here with
    | none => .error .notFound
    | some (.file _) => .error .notADirectory
    | some .directory =>
      if maxNameSize < part.utf8ByteSize then .error .nameTooLong
      else fs.follow (advance here part) parts

/-- The names that a path with these parts leads to in a store. The empty path leads nowhere. -/
def resolve (fs : Files) (path : String) (parts : List String) : Except Fault (List String) := do
  checkPath path
  if path = "" then .error .notFound else fs.follow (fs.origin path) parts

/-- The contents of the file at a path. A path that ends in a slash leads through what it names. -/
def read (fs : Files) (path : String) : Except Fault ByteArray := do
  let names ← fs.resolve path (if endsInSlash path then parts path ++ ["."] else parts path)
  match fs.find? names with
  | none => .error .notFound
  | some .directory => .error .isADirectory
  | some (.file contents) => .ok contents

/-- The store after a file has been written. The directory it lies in has to be there, and a path
that ends in a slash names no file. -/
def write (fs : Files) (path : String) (contents : ByteArray) : Except Fault Files := do
  if endsInSlash path then
    let _ ← fs.resolve path ((parts path).dropLast ++ ["."])
    .error .isADirectory
  else
    let names ← fs.resolve path (parts path)
    match fs.find? names with
    | some .directory => .error .isADirectory
    | _ => .ok (fs.put names (.file contents))

/-- The store with a directory at each of the parts of a path from a place. -/
def makeDirectories (fs : Files) (here : List String) : List String → Except Fault Files
  | [] => .ok fs
  | part :: parts =>
    if maxNameSize < part.utf8ByteSize then .error .nameTooLong
    else
      let there := advance here part
      match fs.find? there with
      | some (.file _) => .error .notADirectory
      | some .directory => fs.makeDirectories there parts
      | none => (fs.put there .directory).makeDirectories there parts

/-- The store with a directory at a path and at every part on the way to it. -/
def makeDirectory (fs : Files) (path : String) : Except Fault Files := do
  checkPath path
  fs.makeDirectories (fs.origin path) (parts path)

/-- The parts of a path that lead to the directory which the path lies in. -/
def parentParts (path : String) : List String :=
  ((parts path).filter (· ≠ ".")).dropLast

/-- The store with one more file and the directories on the way to it. -/
def add (fs : Files) (path : String) (contents : ByteArray) : Except Fault Files := do
  checkPath path
  (← fs.makeDirectories (fs.origin path) (parentParts path)).write path contents

/-- The paths of all files below the working directory, with their contents. -/
def contents (fs : Files) : List (String × ByteArray) :=
  fs.entries.filterMap fun (names, entry) =>
    match entry with
    | .file contents => (fs.relative? names).map fun names => ("/".intercalate names, contents)
    | .directory => none

/-- The files of a store that were not in `old` or had other contents there. -/
def changedFrom (fs old : Files) : List (String × ByteArray) :=
  fs.contents.filter fun (path, contents) =>
    !old.contents.any fun e => e.1 == path && e.2 == contents

/-- Files in memory are read and written in their store. -/
instance : FileAccess (StateM Files) where
  read path := do return (← get).read path
  write path contents := do
    match (← get).write path contents with
    | .error fault => return .error fault
    | .ok fs =>
      set fs
      return .ok ()

end Files

end UsageScan
