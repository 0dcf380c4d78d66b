/-!
# Credential events

A credential event says that the user or the group of a process changed. The kernel reports the
identity that changed and not the other one.
-/

namespace Regroup.Credential

/-- Which identity changed. -/
inductive Kind where
  | user
  | group
deriving DecidableEq

def Kind.label : Kind → String
  | user => "UID"
  | group => "GID"

/-- `real` and `effective` are user numbers or group numbers, as the kind says. -/
structure Event where
  process : Int32
  threadGroup : Int32
  kind : Kind
  real : UInt32
  effective : UInt32
deriving DecidableEq

def Event.text (e : Event) : String :=
  let label := e.kind.label
  s!"{label} Event: PID = {e.process}, tGID = {e.threadGroup}, " ++
    s!"r{label} = {e.real}, e{label} = {e.effective}"

/-- A process with both of its effective identities. -/
structure Resolved where
  process : Int32
  user : UInt32
  group : UInt32
deriving DecidableEq

end Regroup.Credential
