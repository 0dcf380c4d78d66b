import Regroup.Daemon.Program
import Regroup.Daemon.Script

/-!
# The files that a run reads

Which files a run reads depends on what the files before them hold: the configuration names the
rules, and the rules name the groups. `paths` lists what is known to be read once some of the files
are there, so repeating it on a growing tree arrives at all of them.
-/

namespace Regroup.Daemon

open CommandLine (Options)
open Config (Configuration Settings)

namespace Reads

def userFile : String := "/etc/passwd"
def groupFile : String := "/etc/group"

/-- The tables that every run reads. -/
def tables : List String := [userFile, groupFile, MountTable.path]

def identities (tree : FileTree) : Identities :=
  .ofTexts ((tree.readText userFile).toOption.getD []) ((tree.readText groupFile).toOption.getD [])

/-- The process files of the root and of every destination of the rules. -/
def processFiles (tree : FileTree) (settings : Settings) : List String :=
  let engine : Engine :=
    ⟨settings.rulesFile, settings.cgroupRoot, identities tree, none, none⟩
  let detected := (MountTable.detectRoot tree).toOption
  match settings.cgroupRoot.or detected, (engine.readRulesFile tree).result with
  | some root, .ok rules =>
    (root :: rules.map fun rule ↦ Path.join root rule.destination).map Cgroup.processFile
  | some root, .error _ => [Cgroup.processFile root]
  | none, _ => []

def statusFiles (settings : Settings) (incidents : List Incident) : List String :=
  (incidents.flatMap Incident.events).map fun event ↦
    Credential.statusPath settings.processRoot event.process

def paths (options : Options) (incidents : List Incident) (tree : FileTree) : List String :=
  let configFile := options.config.getD Configuration.defaultPath
  let config := ((Configuration.load tree options.config).result.toOption).getD []
  let later :=
    match Settings.resolve config options with
    | .error _ => []
    | .ok settings =>
      settings.rulesFile :: settings.logFile :: processFiles tree settings ++
        statusFiles settings incidents
  configFile :: tables ++ later

end Reads

/-- A kernel that grants every call, for the process with a given status record. -/
def Kernel.ofStatus (record : Bytes) : Kernel :=
  let number (label : String) : Option UInt32 := do
    let (_, values) ← Credential.labelledLine? (Text.encode label) record
    let field ← (Text.fields (Text.decodeLossy values)).head?
    Text.readUInt32? field
  { processNumber := (number "Pid:").getD 1
    effectiveUser := ((Credential.lookUp "Uid:" "" record).toOption).getD 1 }

end Regroup.Daemon
