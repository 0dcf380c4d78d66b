import Regroup.Classifier

/-!
# The recording classifier

A classifier that moves nothing. It remembers its requests in order, counts the reloads, and either
accepts every request or rejects all of them with one code.
-/

namespace Regroup

structure Recorder where
  rejection : Option Int
  requests : List ClassifyRequest := []
  reloads : Nat := 0
deriving DecidableEq

namespace Recorder

instance : Classifier Recorder where
  classify recorder tree request :=
    let result :=
      match recorder.rejection with
      | some code => .error (.rejected code)
      | none => .ok ()
    ⟨result, { recorder with requests := recorder.requests ++ [request] }, tree, []⟩
  reload recorder _ := ⟨.ok (), { recorder with reloads := recorder.reloads + 1 }, []⟩
  listing _ := "Rule: *\n  DEST: /recorded\n"

end Recorder

end Regroup
