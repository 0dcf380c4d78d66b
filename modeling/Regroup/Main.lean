import Regroup.Daemon.Reads

/-!
# The command

Runs the daemon with the given command line. The kernel's part is played by a script on the standard
input. The daemon works on a copy of the files that it reads, and what it has changed is written
back at the end.
-/

namespace Regroup.Main

open Daemon (Incident Kernel Reads.paths runProgram)

/-- Copies a file into the tree if it can be read. -/
def copyFile (tree : FileTree) (path : String) : IO FileTree := do
  try
    let content ← IO.FS.readBinFile path
    return tree.install (FileTree.locationBelow (tree.startOf path) path)
      (.file content.toList)
  catch _ => return tree

def copyFiles (tree : FileTree) (paths : List String) : IO FileTree :=
  paths.foldlM copyFile tree

/-- Writes back the files whose content differs. -/
def writeBack (before after : FileTree) : IO Unit :=
  for (location, entry) in after.entries do
    match entry with
    | .directory => pure ()
    | .file content =>
      if before.content? location ≠ some content then
        IO.FS.writeBinFile ("/" ++ "/".intercalate location) (ByteArray.mk content.toArray)

/-- Files name further files, and no chain is longer than three. -/
def copyAll (arguments : List String) (incidents : List Incident) (tree : FileTree) :
    IO FileTree := do
  let options := (CommandLine.read arguments).toOption.getD {}
  let mut tree := tree
  for _ in List.range 3 do
    tree ← copyFiles tree (Reads.paths options incidents tree)
  return tree

def showStream (stream : IO.FS.Stream) (content : Bytes) : IO Unit :=
  stream.putStr (String.ofList (Text.decodeLossy content))

def run (arguments : List String) : IO UInt32 := do
  let script ← (← IO.getStdin).readToEnd
  let incidents := Incident.ofScript script
  let home := (Path.pieces (← IO.currentDir).toString).filter (· ≠ "")
  let status ← IO.FS.readBinFile "/proc/self/status"
  let tree ← copyAll arguments incidents (FileTree.empty home)
  let (code, machine) := runProgram "cgrulesd" arguments
    { identities := Daemon.Reads.identities tree } (Kernel.ofStatus status.toList) tree incidents
  writeBack tree machine.tree
  showStream (← IO.getStdout) machine.outlets.output.content
  showStream (← IO.getStderr) machine.outlets.errorOutput.content
  return UInt32.ofNat code

end Regroup.Main

def main (arguments : List String) : IO UInt32 :=
  Regroup.Main.run arguments
