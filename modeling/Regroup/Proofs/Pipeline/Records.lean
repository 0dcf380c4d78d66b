import Regroup.Engine
import Regroup.Pipeline

/-!
# Who logs in the course of a batch

Every part of the daemon logs under its own name. Whatever a batch holds, the records that handling
it leaves are those of the decoder, the pipeline and the classifier, and an engine logs under names
of its own too. So none of them passes for a record of the controller.
-/

namespace Regroup

open Log (Record)
open Netlink (Decoder)

namespace Log

/-- None of the records is the controller's. -/
def FromOthers (records : List Record) : Prop :=
  ∀ record ∈ records, record.target ≠ .controller

@[simp]
theorem fromOthers_nil : FromOthers [] :=
  List.forall_mem_nil _

@[simp]
theorem fromOthers_cons (record : Record) (records : List Record) :
    FromOthers (record :: records) ↔ record.target ≠ .controller ∧ FromOthers records :=
  List.forall_mem_cons

@[simp]
theorem fromOthers_append (records later : List Record) :
    FromOthers (records ++ later) ↔ FromOthers records ∧ FromOthers later :=
  List.forall_mem_append

end Log

open Log (FromOthers)

/-- Classifiers of the type leave it to the controller to log as the controller. -/
structure LogsApart (σ : Type) [Classifier σ] : Prop where
  classify : ∀ (classifier : σ) (tree : FileTree) (request : ClassifyRequest),
    FromOthers (Classifier.classify classifier tree request).records
  reload : ∀ (classifier : σ) (tree : FileTree),
    FromOthers (Classifier.reload classifier tree).records

/-! ## Batches -/

namespace Netlink.Decoder

theorem fromOthers_next (d : Decoder) : FromOthers d.next.2.2 := by
  fun_induction next d with
  | case1 d event d' hstep => exact Log.fromOthers_nil
  | case2 d d' hstep ih => exact ih
  | case3 d fault d' hstep => cases fault <;> simp [faultRecords, dropRecord]

end Netlink.Decoder

namespace Pipeline

variable {σ : Type} [Classifier σ] (processRoot : String) (useCache : Bool)

theorem fromOthers_handleEvent (hσ : LogsApart σ) (event : Credential.Event) (p : Progress σ)
    (hp : FromOthers p.records) :
    FromOthers (handleEvent processRoot useCache event p).records := by
  unfold handleEvent
  dsimp only
  split
  · simp [hp, dropRecord]
  · rename_i credential hresolve
    have hanswer := hσ.classify p.classifier p.tree (credential.request useCache)
    have houtcome (result : Except ClassifyError Unit) :
        (outcomeRecord result).target ≠ .controller := by
      cases result <;> simp [outcomeRecord]
    simp [dispatch, attemptRecord, hp, hanswer, houtcome]

theorem fromOthers_handleEvents (hσ : LogsApart σ) (d : Decoder) (p : Progress σ)
    (hp : FromOthers p.records) :
    FromOthers (handleEvents processRoot useCache d p).2.records := by
  fun_induction handleEvents processRoot useCache d p with
  | case1 d p event d' records hnext logged ih =>
    have hrecords := d.fromOthers_next
    rw [hnext] at hrecords
    exact ih (fromOthers_handleEvent processRoot useCache hσ event logged
      ((Log.fromOthers_append _ _).2 ⟨hp, hrecords⟩))
  | case2 d p d' records hnext =>
    have hrecords := d.fromOthers_next
    rw [hnext] at hrecords
    exact (Log.fromOthers_append _ _).2 ⟨hp, hrecords⟩

theorem fromOthers_handleBatch (hσ : LogsApart σ) (pipeline : Pipeline σ) (tree : FileTree)
    (batch : Bytes) : FromOthers (pipeline.handleBatch tree batch).records := by
  have hinterruption (interruption : Option Netlink.Interruption) :
      FromOthers (interruptionRecords interruption) := by
    cases interruption <;> simp [interruptionRecords]
  exact (Log.fromOthers_append _ _).2
    ⟨fromOthers_handleEvents _ _ hσ _ _ Log.fromOthers_nil, hinterruption _⟩

end Pipeline

/-! ## The engine -/

theorem fromOthers_readRules (ids : Identities) (path : String) (line : Nat)
    (above : Option (Option Subject)) (lines : List (List Char)) :
    FromOthers (readRules ids path line above lines).records := by
  fun_induction readRules ids path line above lines with
  | case1 | case2 => exact Log.fromOthers_nil
  | case3 | case4 | case5 | case6 => assumption
  | case7 line above text rest who controllers destination hline reading ih =>
    have hunknown : (unknownSubjectRecord path line who).target ≠ .controller := by
      simp [unknownSubjectRecord]
    exact (Log.fromOthers_cons _ _).2 ⟨hunknown, ih⟩

namespace Engine

theorem fromOthers_readRulesFile (engine : Engine) (tree : FileTree) :
    FromOthers (engine.readRulesFile tree).records := by
  unfold readRulesFile
  split
  · exact Log.fromOthers_nil
  · exact fromOthers_readRules _ _ _ _ _

theorem fromOthers_load (engine : Engine) (tree : FileTree) :
    FromOthers (engine.load tree).records := by
  have hreading := engine.fromOthers_readRulesFile tree
  unfold load
  dsimp only
  split
  · exact hreading
  · simp [hreading]

theorem fromOthers_init (engine : Engine) (tree : FileTree) :
    FromOthers (engine.init tree).records := by
  unfold init
  split <;> simp

theorem fromOthers_moveTo (root : String) (process : Int32) (rule : Rule) (tree : FileTree) :
    FromOthers (moveTo root process rule tree).records := by
  unfold moveTo
  dsimp only
  split
  · split <;> simp
  · exact Log.fromOthers_nil

theorem fromOthers_moveAlong (root : String) (process : Int32) (rules : RuleSet)
    (tree : FileTree) : FromOthers (moveAlong root process rules tree).records := by
  fun_induction moveAlong root process rules tree with
  | case1 tree => exact Log.fromOthers_nil
  | case2 rule rules tree move cause hmove => exact fromOthers_moveTo root process rule tree
  | case3 rule rules tree move moved hmove rest ih =>
    exact (Log.fromOthers_append _ _).2 ⟨fromOthers_moveTo root process rule tree, ih⟩

theorem fromOthers_move (engine : Engine) (tree : FileTree) (request : ClassifyRequest) :
    FromOthers (engine.move tree request).records := by
  have hrules : FromOthers (engine.rulesFor tree request.useCache).2 := by
    unfold rulesFor
    split
    · exact Log.fromOthers_nil
    · exact engine.fromOthers_readRulesFile tree
  have hmove (root : String) (rules : RuleSet) :
      FromOthers (engine.moveBy root rules request tree).records := by
    unfold moveBy
    split
    · simp
    · exact fromOthers_moveAlong _ _ _ _
  unfold move
  split
  · exact Log.fromOthers_nil
  · split <;> rename_i hfor <;> rw [hfor] at hrules
    · exact hrules
    · exact (Log.fromOthers_append _ _).2 ⟨hrules, hmove _ _⟩

theorem logsApart : LogsApart Engine :=
  ⟨fromOthers_move, fromOthers_load⟩

end Engine

end Regroup
