import Regroup.FileTree
import Regroup.Log.Record
import Regroup.Rule.Error

/-!
# Classifiers

A classifier moves processes to where their identities belong. It is asked for one process at a
time, can read its rules again, and lists them. What it does to the file tree and what it logs are
part of each answer.
-/

namespace Regroup

open Log (Record)

/-! ## Requests and answers -/

structure ClassifyRequest where
  user : UInt32
  group : UInt32
  process : Int32
  useCache : Bool
deriving DecidableEq

/-- Why a process was not moved. -/
inductive ClassifyError where
  | notInitialized
  | destinationMissing (path : String)
  | attach (process : Int32) (path : String) (cause : SystemError)
  | rules (cause : RulesError)
  | rejected (code : Int)
deriving DecidableEq

namespace ClassifyError

def message : ClassifyError → String
  | notInitialized => "classification engine not initialized"
  | destinationMissing path => s!"cgroup {path} does not exist"
  | attach process path _ => s!"moving process {process} to {path} failed"
  | rules _ => "loading rules failed"
  | rejected code => s!"classification failed with code {code}"

def sources : ClassifyError → List String
  | notInitialized | destinationMissing _ | rejected _ => []
  | attach _ _ cause => [cause.message]
  | rules cause => cause.message :: cause.sources

/-- The number under which a failure is reported. -/
def code : ClassifyError → Int
  | notInitialized => Errno.invalidArgument
  | destinationMissing _ => Errno.noEntry
  | attach _ _ cause => cause.code?.getD Errno.inputOutput
  | rules _ => Errno.badMessage
  | rejected code => code

end ClassifyError

structure Classification (σ : Type) where
  result : Except ClassifyError Unit
  state : σ
  tree : FileTree
  records : List Record

structure Reload (σ : Type) where
  result : Except RulesError Unit
  state : σ
  records : List Record

class Classifier (σ : Type) where
  classify : σ → FileTree → ClassifyRequest → Classification σ
  reload : σ → FileTree → Reload σ
  listing : σ → String

/-- Reads the rules again and says what the listing that follows a reload shows. A failed reload
leaves the listing as it was. -/
def reloadPolicy {σ : Type} [Classifier σ] (state : σ) (tree : FileTree) (generation : Nat) :
    σ × String × List Record :=
  let reload := Classifier.reload state tree
  let failure : List Record :=
    match reload.result with
    | .ok _ => []
    | .error cause =>
      [⟨.error, .controller,
        s!"Failed to reload the rules, keeping the previous ones: {cause.message}"⟩]
  (reload.state, s!"Rules (generation {generation}):\n{Classifier.listing reload.state}\n",
    reload.records ++ failure)

end Regroup
