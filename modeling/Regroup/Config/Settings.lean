import Regroup.CommandLine
import Regroup.Config.File
import Regroup.Text.Quoted

/-!
# Settings

The settings of the daemon come from the command line, the configuration and defaults, in this order
of precedence. A value of the configuration that the command line overrides is not looked at, so it
may be no value of its type. Of several invalid values the first in the order of evaluation is
reported.
-/

namespace Regroup.Config

open CommandLine (Options)

structure ChannelOptions where
  receiveBuffer : Nat
  socketBuffer : Option Nat
deriving DecidableEq

structure Settings where
  daemonize : Bool
  logging : Bool
  logFile : String
  processRoot : String
  rulesFile : String
  cgroupRoot : Option String
  useCache : Bool
  channel : ChannelOptions
deriving DecidableEq

namespace Settings

def defaultLogFile : String := "/var/log/cgrulesd.log"
def defaultProcessRoot : String := "/proc"
def defaultRulesFile : String := "/etc/cgrules.conf"
def defaultReceiveBuffer : Nat := 4096
def minReceiveBuffer : Nat := 64

/-- A size for received datagrams, of at least the minimum. -/
def receiveBuffer (channel : Section) : Except ConfigError Nat := do
  let size ← channel.valueOr .size "recv_buffer" defaultReceiveBuffer
  if size < minReceiveBuffer then
    .error (.invalidValue "channel.recv_buffer" (toString size)
      s!"must be at least {minReceiveBuffer} bytes")
  else .ok size

/-- A switch that a flag of the command line turns off. -/
def switch (turnedOff : Bool) (s : Section) (key : String) : Except ConfigError Bool :=
  if turnedOff then .ok false else s.valueOr .bool key true

/-- A path of the command line, else of the configuration, else a default. -/
def path (given : Option String) (s : Section) (key default : String) :
    Except ConfigError String :=
  match given with
  | some path => .ok path
  | none => s.valueOr .text key default

def resolve (config : Configuration) (options : Options) : Except ConfigError Settings := do
  let daemon := config.named "daemon"
  let engine := config.named "engine"
  let channel := config.named "channel"
  let receiveBuffer ← receiveBuffer channel
  let daemonize ← switch options.nodaemon daemon "daemonize"
  let logging ← switch options.nolog daemon "logging"
  let logFile ← path options.log daemon "log_file" defaultLogFile
  let processRoot ← path none daemon "proc_root" defaultProcessRoot
  let rulesFile ← path options.rules engine "rules_file" defaultRulesFile
  let cgroupRoot ← engine.value? .text "cgroup_root"
  let useCache ← engine.valueOr .bool "use_cache" true
  let socketBuffer ← channel.value? .size "socket_rcvbuf"
  return {
    daemonize, logging, logFile, processRoot, rulesFile, cgroupRoot, useCache
    channel := ⟨receiveBuffer, socketBuffer⟩ }

end Settings

/-! ## Texts for the log -/

def optionText (text? : Option String) : String :=
  match text? with
  | some text => "Some(" ++ text ++ ")"
  | none => "None"

/-- A record text: the name of the record and its fields between braces. -/
def recordText (name : String) (fields : List (String × String)) : String :=
  name ++ " \x7b " ++ ", ".intercalate (fields.map fun (field, value) ↦ field ++ ": " ++ value) ++
    " \x7d"

def optionsText (options : Options) : String :=
  recordText "CgredOpts" [
    ("nodaemon", toString options.nodaemon),
    ("nolog", toString options.nolog),
    ("log", optionText (options.log.map Text.quoted)),
    ("config", optionText (options.config.map Text.quoted)),
    ("rules", optionText (options.rules.map Text.quoted)),
    ("verbose", toString options.verbose)]

def ChannelOptions.text (channel : ChannelOptions) : String :=
  recordText "ChannelOptions" [
    ("recv_buffer", toString channel.receiveBuffer),
    ("socket_rcvbuf", optionText (channel.socketBuffer.map toString))]

def Settings.text (settings : Settings) : String :=
  recordText "DaemonSettings" [
    ("daemonize", toString settings.daemonize),
    ("logging", toString settings.logging),
    ("log_file", Text.quoted settings.logFile),
    ("proc_root", Text.quoted settings.processRoot),
    ("rules_file", Text.quoted settings.rulesFile),
    ("cgroup_root", optionText (settings.cgroupRoot.map Text.quoted)),
    ("use_cache", toString settings.useCache),
    ("channel", settings.channel.text)]

end Regroup.Config
