import Regroup.FileTree

/-!
# Control groups

A control group is a directory of the unified hierarchy, named by a path. A process is moved into
it by writing its number to the file `cgroup.procs` there. The number is written over the start of
the file, so whatever was longer keeps its end.

The groups are directories of a file tree, whose files are plain ones. So a move fails where the
file cannot be opened, and a file that is open takes the number: that the kernel refuses a write to
an open `cgroup.procs`, as it does for a process that is gone, is not among the failures.
-/

namespace Regroup.Cgroup

def processFile (path : String) : String :=
  Path.join path "cgroup.procs"

def processText (process : Int32) : Bytes :=
  Text.encode (toString process)

/-- Moves a process to the group at a path. -/
def attach (tree : FileTree) (path : String) (process : Int32) : Except SystemError FileTree := do
  let location ← tree.openForWriting (processFile path)
  return tree.overwrite location (processText process)

end Regroup.Cgroup
