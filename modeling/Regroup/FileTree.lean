import Regroup.Path
import Regroup.SystemError
import Regroup.Text.Utf8

/-!
# File trees

A file tree says which files and directories exist, what the files hold, and which directory
relative paths start from. There are no links, so a location, the list of component names from
the root on, names at most one entry.

A path text is followed component by component: everything before a component has to be a
directory, empty components and `.` stay, and `..` goes one up. Opening an existing file never
changes the tree, and the two operations that write change the content of one location.

Files are plain: what may fail is opening one, and a file that is open takes all that is written to
it. Only the null device, which every tree has, stays empty whatever is written to it.
-/

namespace Regroup

/-- Component names from the root on. -/
abbrev Location := List String

inductive Entry where
  | file (content : Bytes)
  | directory
deriving DecidableEq

/-- `substitutes` names files that are opened in the place of others. -/
structure FileTree where
  entries : List (Location × Entry)
  workingDirectory : Location
  substitutes : List (String × String) := []
deriving DecidableEq

namespace FileTree

def maxNameLength : Nat := 255
def maxPathLength : Nat := 4095

def nullDevice : Location := ["dev", "null"]

/-- The null device and the directories above it belong to every tree. -/
def entry? (t : FileTree) (location : Location) : Option Entry :=
  if location = nullDevice then some (.file [])
  else if location.isPrefixOf nullDevice then some .directory
  else t.entries.lookup location

def content? (t : FileTree) (location : Location) : Option Bytes :=
  match t.entry? location with
  | some (.file content) => some content
  | _ => none

/-- Follows component names from a location on. -/
def walk (t : FileTree) : Location → List String → Except SystemError Location
  | location, [] => .ok location
  | location, name :: names =>
    match t.entry? location with
    | none => .error (.os Errno.noEntry)
    | some (.file _) => .error (.os Errno.notADirectory)
    | some .directory =>
      if name = "" || name = "." then t.walk location names
      else if name = ".." then t.walk location.dropLast names
      else if maxNameLength < name.utf8ByteSize then .error (.os Errno.nameTooLong)
      else if (t.entry? (location ++ [name])).isNone then .error (.os Errno.noEntry)
      else t.walk (location ++ [name]) names

/-- The faults of a path text itself. -/
def checkText (path : String) : Except SystemError Unit :=
  if path.toList.contains '\x00' then .error .nulInPath
  else if path = "" then .error (.os Errno.noEntry)
  else if maxPathLength < path.utf8ByteSize then .error (.os Errno.nameTooLong)
  else .ok ()

def startOf (t : FileTree) (path : String) : Location :=
  if Path.isAbsolute path then [] else t.workingDirectory

/-- The location of the existing file or directory that a path leads to. -/
def locate (t : FileTree) (path : String) : Except SystemError Location := do
  checkText path
  t.walk (t.startOf path) (Path.pieces path)

def isDirectory (t : FileTree) (path : String) : Bool :=
  match t.locate path with
  | .ok location => t.entry? location == some .directory
  | .error _ => false

def pathExists (t : FileTree) (path : String) : Bool :=
  (t.locate path).toOption.isSome

/-! ## Opening files -/

def substituted (t : FileTree) (path : String) : String :=
  (t.substitutes.lookup path).getD path

/-- Opens a path for reading. A directory opens as well. -/
def openForReading (t : FileTree) (path : String) : Except SystemError Entry := do
  let location ← t.locate (t.substituted path)
  match t.entry? location with
  | some entry => .ok entry
  | none => .error (.os Errno.noEntry)

/-- The content of the file that a path leads to. -/
def read (t : FileTree) (path : String) : Except SystemError Bytes := do
  match ← t.openForReading path with
  | .file content => .ok content
  | .directory => .error (.os Errno.isADirectory)

def readText (t : FileTree) (path : String) : Except SystemError (List Char) := do
  match Text.decode? (← t.read path) with
  | some text => .ok text
  | none => .error .notUtf8

/-- Opens an existing file for writing. -/
def openForWriting (t : FileTree) (path : String) : Except SystemError Location := do
  let location ← t.locate (t.substituted path)
  match t.entry? location with
  | some (.file _) => .ok location
  | some .directory => .error (.os Errno.isADirectory)
  | none => .error (.os Errno.noEntry)

/-! ## Changing the tree -/

def put (t : FileTree) (location : Location) (entry : Entry) : FileTree :=
  if location = nullDevice then t
  else
    let isKnown := t.entries.any fun known ↦ known.1 == location
    { t with entries :=
        if isKnown then
          t.entries.map fun known ↦ if known.1 == location then (location, entry) else known
        else t.entries ++ [(location, entry)] }

/-- Writes over the start of a file and keeps what lies behind. -/
def overwrite (t : FileTree) (location : Location) (bytes : Bytes) : FileTree :=
  match t.content? location with
  | some content => t.put location (.file (bytes ++ content.drop bytes.length))
  | none => t

def append (t : FileTree) (location : Location) (bytes : Bytes) : FileTree :=
  match t.content? location with
  | some content => t.put location (.file (content ++ bytes))
  | none => t

/-- Opens a file for appending, and makes it if its directory exists. A path that ends in a slash
or a dot component names a directory and no file. -/
def openForAppending (t : FileTree) (path : String) :
    Except SystemError (Location × FileTree) := do
  let path := t.substituted path
  checkText path
  let pieces := Path.pieces path
  let named := (pieces.reverse.dropWhile (· = "")).reverse
  match named.getLast? with
  | none => .error (.os Errno.isADirectory)
  | some name =>
    let parent ← t.walk (t.startOf path) (named.dropLast ++ [""])
    if named.length < pieces.length || name = "." || name = ".." then
      .error (.os Errno.isADirectory)
    else if maxNameLength < name.utf8ByteSize then .error (.os Errno.nameTooLong)
    else
      match t.entry? (parent ++ [name]) with
      | some (.file _) => .ok (parent ++ [name], t)
      | some .directory => .error (.os Errno.isADirectory)
      | none => .ok (parent ++ [name], t.put (parent ++ [name]) (.file []))

/-- The directories above a location and the location itself, from the root on. -/
def ancestors (location : Location) : List Location :=
  (List.range location.length).map fun depth ↦ location.take (depth + 1)

/-- Makes the missing directories of a location. -/
def makeDirectories (t : FileTree) (location : Location) : FileTree :=
  (ancestors location).foldl
    (fun t ancestor ↦ if (t.entry? ancestor).isNone then t.put ancestor .directory else t) t

/-- Puts an entry at a location, with the directories above it. -/
def install (t : FileTree) (location : Location) (entry : Entry) : FileTree :=
  (t.makeDirectories location.dropLast).put location entry

/-- Removes a location and everything below it. -/
def remove (t : FileTree) (location : Location) : FileTree :=
  { t with entries := t.entries.filter fun known ↦ !location.isPrefixOf known.1 }

/-- The tree that holds nothing but an empty working directory. -/
def empty (workingDirectory : Location) : FileTree :=
  (⟨[], workingDirectory, []⟩ : FileTree).makeDirectories workingDirectory

/-- The location of a path text without dot components, read from a base location. -/
def locationBelow (base : Location) (path : String) : Location :=
  base ++ (Path.pieces path).filter fun piece ↦ piece ≠ "" && piece ≠ "."

/-- The files below a location whose path from there satisfies a test, in the order of the tree,
as path texts and contents. -/
def filesBelow (t : FileTree) (base : Location) (keep : String → Bool) :
    List (String × Bytes) :=
  t.entries.filterMap fun (location, entry) ↦
    match entry with
    | .directory => none
    | .file content =>
      let path := "/".intercalate (location.drop base.length)
      if base.isPrefixOf location && keep path then some (path, content) else none

end FileTree

end Regroup
