import Regroup.Config.File
import Regroup.Daemon.Background
import Regroup.Daemon.Connector
import Regroup.Rule.Error

/-!
# Fatal failures

Each stage of the daemon ends it with a failure of its own, and every kind of failure has its own
exit status. A failure is reported once, either on one line with all its causes or, for whoever
wants to know more, with a paragraph that lists them.
-/

namespace Regroup.Daemon

open Log (Record)

inductive Failure where
  | notRoot
  | configuration (cause : Config.ConfigError)
  | engine (cause : RulesError)
  | background (cause : BackgroundError)
  | signals (cause : SystemError)
  | channelOpen (cause : ChannelError)
  | channelLost (cause : ChannelError)
deriving DecidableEq

namespace Failure

def message : Failure → String
  | notRoot => "only root can start the cgroup rules engine daemon"
  | configuration _ => "invalid configuration"
  | engine _ => "cgroup rules engine initialization failed"
  | background _ => "failed to launch the daemon"
  | signals _ => "failed to set up signal handling"
  | channelOpen _ => "failed to subscribe to process events"
  | channelLost _ => "lost the process events channel"

/-- The messages of the causes, each followed by its own cause. -/
def sources : Failure → List String
  | notRoot => []
  | configuration cause => cause.message :: cause.sources
  | engine cause => cause.message :: cause.sources
  | background cause => cause.message :: cause.sources
  | signals cause => [cause.message]
  | channelOpen cause | channelLost cause => cause.message :: cause.sources

def exitCode : Failure → Nat
  | notRoot => 1
  | configuration _ => 2
  | engine _ => 3
  | background _ => 4
  | signals _ => 5
  | channelOpen _ => 6
  | channelLost _ => 7

/-! ## Reports -/

def oneLine (failure : Failure) : String :=
  ": ".intercalate (failure.message :: failure.sources)

/-- Further lines of a cause stand below its first one. -/
def indented (start margin text : String) : String :=
  start ++ ("\n" ++ margin).intercalate (text.splitOn "\n")

/-- Several causes are numbered, a single one is not. -/
def causeLines : List String → List String
  | [cause] => [indented "    " "    " cause]
  | causes => causes.mapIdx fun i cause ↦
    indented ("".pushn ' ' (5 - (toString i).length) ++ s!"{i}: ") "       " cause

def detailed (failure : Failure) : String :=
  match failure.sources with
  | [] => failure.message
  | causes => s!"{failure.message}\n\nCaused by:\n" ++ "\n".intercalate (causeLines causes)

/-- The record that reports a failure. -/
def report (failure : Failure) (inDetail : Bool) : Record :=
  ⟨.error, .report, if inDetail then failure.detailed else failure.oneLine⟩

end Failure

end Regroup.Daemon
