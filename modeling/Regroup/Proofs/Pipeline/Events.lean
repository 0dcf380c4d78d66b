import Regroup.Pipeline
import Regroup.Proofs.Netlink.Batch

/-!
# A batch as the list of its events

Decoding and handling take turns, but neither hears of the other: the decoder goes its way whatever
becomes of the events, and handling an event looks at nothing of the decoder. So a batch is handled
by draining it and then handling its events one after the other. What the two log is left out here,
since those records do alternate.
-/

namespace Regroup

open Credential (Event)
open Log (Record)
open Netlink (Decoder)

namespace Pipeline

variable {σ : Type} [Classifier σ] (processRoot : String) (useCache : Bool)

theorem handleEvent_of_resolve_eq_error (event : Event)
    (p : Progress σ) (cause : Credential.ResolveError)
    (h : event.resolve p.tree processRoot = .error cause) :
    (handleEvent processRoot useCache event p).classifier = p.classifier ∧
      (handleEvent processRoot useCache event p).tree = p.tree := by
  simp only [handleEvent, h, and_self]

theorem handleEvent_of_resolve_eq_ok (event : Event)
    (p : Progress σ) (credential : Credential.Resolved)
    (h : event.resolve p.tree processRoot = .ok credential) :
    let answer := Classifier.classify p.classifier p.tree (credential.request useCache)
    (handleEvent processRoot useCache event p).classifier = answer.state ∧
      (handleEvent processRoot useCache event p).tree = answer.tree := by
  simp only [handleEvent, h, dispatch, and_self]

theorem handleEvents_of_next_eq_some (d d' : Decoder) (event : Event) (records : List Record)
    (p : Progress σ) (h : d.next = (some event, d', records)) :
    handleEvents processRoot useCache d p =
      handleEvents processRoot useCache d' (handleEvent processRoot useCache event
        { p with records := p.records ++ records }) := by
  rw [handleEvents]
  split
  · rename_i hnext
    rw [h] at hnext
    obtain ⟨⟨⟩, rfl, rfl⟩ := hnext
    rfl
  · rename_i hnext
    rw [h] at hnext
    cases hnext

theorem handleEvents_of_next_eq_none (d d' : Decoder) (records : List Record) (p : Progress σ)
    (h : d.next = (none, d', records)) :
    handleEvents processRoot useCache d p = (d', { p with records := p.records ++ records }) := by
  rw [handleEvents]
  split
  · rename_i hnext
    rw [h] at hnext
    cases hnext
  · rename_i hnext
    rw [h] at hnext
    obtain ⟨-, rfl, rfl⟩ := hnext
    rfl

/-- The progress without what was logged on the way. -/
def Progress.unlogged (p : Progress σ) : Progress σ :=
  { p with records := [] }

theorem unlogged_handleEvent (event : Event) (p : Progress σ) :
    (handleEvent processRoot useCache event p).unlogged =
      (handleEvent processRoot useCache event p.unlogged).unlogged := by
  simp only [handleEvent, Progress.unlogged]
  split <;> rfl

/-- Handles events in turn. -/
def handleAll (events : List Event) (p : Progress σ) : Progress σ :=
  events.foldl (fun p event ↦ handleEvent processRoot useCache event p) p

/-- What handling an event preserves, handling a list of events preserves. -/
theorem handleAll_induction {motive : Progress σ → Prop}
    (step : ∀ event p, motive p → motive (handleEvent processRoot useCache event p))
    (events : List Event) (p : Progress σ) (hp : motive p) :
    motive (handleAll processRoot useCache events p) := by
  induction events generalizing p with
  | nil => exact hp
  | cons event events ih => exact ih _ (step event p hp)

theorem unlogged_handleAll (events : List Event) (p : Progress σ) :
    (handleAll processRoot useCache events p).unlogged =
      (handleAll processRoot useCache events p.unlogged).unlogged := by
  induction events generalizing p with
  | nil => rfl
  | cons event events ih =>
    simp only [handleAll, List.foldl_cons] at ih ⊢
    rw [ih, unlogged_handleEvent, ← ih]

/-- The decoder ends where it does without a pipeline, and the pipeline where the list of events
takes it. -/
theorem handleEvents_eq_drain (d : Decoder) (p : Progress σ) :
    (handleEvents processRoot useCache d p).1 = d.drain.2.1 ∧
      (handleEvents processRoot useCache d p).2.unlogged =
        (handleAll processRoot useCache d.drain.1 p).unlogged := by
  fun_induction handleEvents processRoot useCache d p with
  | case1 d p event d' records hnext logged ih =>
    rw [d.drain_of_next_eq_some d' event records hnext]
    refine ⟨ih.1, ih.2.trans ?_⟩
    have hlogged : logged.unlogged = p.unlogged := rfl
    simp only [handleAll, List.foldl_cons]
    change (handleAll _ _ _ (handleEvent _ _ _ logged)).unlogged =
      (handleAll _ _ _ (handleEvent _ _ _ p)).unlogged
    rw [unlogged_handleAll, unlogged_handleEvent, hlogged, ← unlogged_handleEvent,
      ← unlogged_handleAll]
  | case2 d p d' records hnext =>
    rw [d.drain_of_next_eq_none d' records hnext]
    exact ⟨rfl, rfl⟩

/-- The progress that the events of a batch make from the start of the batch. -/
def progressOf (pipeline : Pipeline σ) (tree : FileTree) (events : List Event) : Progress σ :=
  handleAll pipeline.processRoot pipeline.useCache events ⟨pipeline.classifier, tree, {}, []⟩

theorem handleBatch_classifier (pipeline : Pipeline σ) (tree : FileTree) (batch : Bytes) :
    (pipeline.handleBatch tree batch).pipeline.classifier =
      (pipeline.progressOf tree (Netlink.decode batch).1).classifier := by
  have h := congrArg Progress.classifier (handleEvents_eq_drain pipeline.processRoot
    pipeline.useCache (Decoder.ofBatch batch) ⟨pipeline.classifier, tree, {}, []⟩).2
  exact h

theorem handleBatch_tree (pipeline : Pipeline σ) (tree : FileTree) (batch : Bytes) :
    (pipeline.handleBatch tree batch).tree =
      (pipeline.progressOf tree (Netlink.decode batch).1).tree := by
  have h := congrArg Progress.tree (handleEvents_eq_drain pipeline.processRoot
    pipeline.useCache (Decoder.ofBatch batch) ⟨pipeline.classifier, tree, {}, []⟩).2
  exact h

end Pipeline

end Regroup
