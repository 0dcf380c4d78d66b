import Regroup.MountTable

/-!
# Errors of the rules engine

Why the engine could not be set up or could not read its rules. An error has a message of its own
and the messages of the errors behind it, the nearest first.
-/

namespace Regroup

inductive RulesError where
  | unreadable (path : String) (cause : SystemError)
  | malformed (path : String) (line : Nat) (reason : String)
  | rootMissing (path : String)
  | mountTable (cause : MountTable.ReadError)
deriving DecidableEq

namespace RulesError

def message : RulesError → String
  | unreadable path _ => s!"reading rules file {path} failed"
  | malformed path line reason => s!"{path}:{line}: {reason}"
  | rootMissing path => s!"cgroup root {path} is not a directory"
  | mountTable _ => "detecting the cgroup2 mount point failed"

def sources : RulesError → List String
  | unreadable _ cause => [cause.message]
  | malformed _ _ _ | rootMissing _ => []
  | mountTable cause => cause.message :: cause.sources

end RulesError

end Regroup
