import Regroup.FileTree
import Regroup.Text.Blank
import Regroup.Text.Split

/-!
# The mount table

A line of the mount table lists the fields of a mount, a separator, and the file system:

    36 35 98:0 /root /mountpoint rw,noatime master:1 - cgroup2 none rw

The number of fields before the separator varies, but the mount point is always the fifth. Lines
that are no UTF-8 are passed over.
-/

namespace Regroup.MountTable

/-- The mount point of a line whose file system is the unified hierarchy. -/
def unifiedMountPoint? (line : List Char) : Option (List Char) :=
  match Text.splitOnce [' ', '-', ' '] line with
  | none => none
  | some (mount, filesystem) =>
    if (Text.fields filesystem).head? = some ['c', 'g', 'r', 'o', 'u', 'p', '2'] then
      (Text.fields mount)[4]?
    else none

/-- The mount point of the unified hierarchy, on the first line that has one. -/
def unifiedRoot? (table : Bytes) : Option String :=
  let lines := (Text.linesAt 10 table).filterMap Text.decode?
  (lines.findSome? unifiedMountPoint?).map String.ofList

/-! ## Reading the table -/

def path : String := "/proc/self/mountinfo"

/-- Why the mount point of the unified hierarchy is not known. -/
inductive ReadError where
  | unreadable (path : String) (cause : SystemError)
  | noUnifiedMount
deriving DecidableEq

namespace ReadError

def message : ReadError → String
  | unreadable path _ => s!"reading {path} failed"
  | noUnifiedMount => "could not find cgroup2 filesystem mount"

def sources : ReadError → List String
  | unreadable _ cause => [cause.message]
  | noUnifiedMount => []

end ReadError

/-- The mount point of the unified hierarchy. A directory in the place of the mount table opens and
lists no mounts. -/
def detectRoot (tree : FileTree) : Except ReadError String :=
  match tree.openForReading path with
  | .error cause => .error (.unreadable path cause)
  | .ok .directory => .error .noUnifiedMount
  | .ok (.file table) =>
    match unifiedRoot? table with
    | some root => .ok root
    | none => .error .noUnifiedMount

end Regroup.MountTable
