import Mathlib.Algebra.GroupWithZero.Nat
import Regroup.Proofs.Netlink.Offsets
import Regroup.Proofs.Pipeline.Watched

/-!
# Counters over a run

The decoder, the report of a batch and the pipeline count independently of each other. Their
counters balance all the same: what the decoder yields is what a report accounts for, what a report
accounts for is what the pipeline adds up, and a batch is cut short or truncated at most once. A
payload that is too short counts as a frame and as truncated, a header that is too short only as
truncated, so the frames of a run are known up to the truncated ones.
-/

namespace Regroup

open Credential (Event)
open Netlink (DecodeStats Decoder)

variable {σ : Type} [Classifier σ]

/-- The classifier that was asked rejects the request. -/
def Inquiry.isRejected (inquiry : Inquiry σ) : Bool :=
  match (Classifier.classify inquiry.classifier inquiry.tree inquiry.request).result with
  | .ok _ => false
  | .error _ => true

theorem Inquiry.failures_eq (inquiry : Inquiry σ) :
    (match (Classifier.classify inquiry.classifier inquiry.tree inquiry.request).result with
      | .ok _ => 0
      | .error _ => 1) = if inquiry.isRejected then 1 else 0 := by
  unfold isRejected
  cases (Classifier.classify inquiry.classifier inquiry.tree inquiry.request).result with
  | ok moved => rfl
  | error cause => rfl

namespace Pipeline

/-- The report accounts for the events handled so far and for what the classifier was asked. -/
structure Progress.IsCounted (handled : Nat) (p : Progress (Watched σ)) : Prop where
  events : p.report.events = handled
  settled : p.report.events = p.report.dispatched + p.report.unresolved
  dispatched : p.report.dispatched = p.classifier.inquiries.length
  failed : p.report.failed = p.classifier.inquiries.countP Inquiry.isRejected

theorem isCounted_handleEvent (processRoot : String) (useCache : Bool) (event : Event)
    (handled : Nat) (p : Progress (Watched σ)) (hp : p.IsCounted handled) :
    (handleEvent processRoot useCache event p).IsCounted (handled + 1) := by
  obtain ⟨hevents, hsettled, hdispatched, hfailed⟩ := hp
  cases h : event.resolve p.tree processRoot with
  | error cause =>
    simp only [handleEvent, h]
    exact ⟨congrArg (· + 1) hevents, by dsimp only; omega, hdispatched, hfailed⟩
  | ok credential =>
    simp only [handleEvent, h, dispatch, Classifier.classify]
    refine ⟨congrArg (· + 1) hevents, by dsimp only; omega, ?_, ?_⟩
    · simp only [hdispatched, List.length_append, List.length_singleton]
    · rw [List.countP_append, List.countP_singleton, ← hfailed]
      exact congrArg (p.report.failed + ·) (Inquiry.failures_eq
        ⟨p.classifier.classifier, p.tree, credential.request useCache⟩)

theorem isCounted_handleAll (processRoot : String) (useCache : Bool) (events : List Event)
    (handled : Nat) (p : Progress (Watched σ)) (hp : p.IsCounted handled) :
    (handleAll processRoot useCache events p).IsCounted (handled + events.length) := by
  induction events generalizing handled p with
  | nil => exact hp
  | cons event events ih =>
    have hrest := ih _ _ (isCounted_handleEvent processRoot useCache event handled p hp)
    rwa [Nat.add_right_comm, Nat.add_assoc] at hrest

theorem handleBatch_report (pipeline : Pipeline σ) (tree : FileTree) (batch : Bytes) :
    (pipeline.handleBatch tree batch).report =
      { (pipeline.progressOf tree (Netlink.decode batch).1).report with
        interruption := (Netlink.decode batch).2.interruption } := by
  obtain ⟨hdecoder, hprogress⟩ := handleEvents_eq_drain pipeline.processRoot pipeline.useCache
    (Decoder.ofBatch batch) ⟨pipeline.classifier, tree, {}, []⟩
  have hreport := congrArg Progress.report hprogress
  simp only [Progress.unlogged] at hreport
  simp only [handleBatch, hdecoder, hreport]
  rfl

theorem handleBatch_stats (pipeline : Pipeline σ) (tree : FileTree) (batch : Bytes) :
    (pipeline.handleBatch tree batch).pipeline.stats =
      pipeline.stats.count (pipeline.handleBatch tree batch).report
        (Netlink.decode batch).2.stats := by
  have hdecoder := (handleEvents_eq_drain pipeline.processRoot pipeline.useCache
    (Decoder.ofBatch batch) ⟨pipeline.classifier, tree, {}, []⟩).1
  simp only [handleBatch, hdecoder]
  rfl

end Pipeline

/-- A call of a pipeline with the file tree that it meets. -/
structure Call (σ : Type) where
  pipeline : Pipeline σ
  tree : FileTree
  batch : Bytes

namespace Call

def handled (call : Call σ) : Pipeline.Handled σ :=
  call.pipeline.handleBatch call.tree call.batch

def report (call : Call σ) : BatchReport :=
  call.handled.report

/-- What the classifier is asked in the course of the call. -/
def inquiries (call : Call σ) : List (Inquiry σ) :=
  call.pipeline.inquiries call.tree call.batch

/-- Every event of the batch is either put to the classifier or dropped, and the failures are the
requests that the classifier rejects. -/
structure IsAccounted (call : Call σ) : Prop where
  watching : (call.pipeline.watch.handleBatch call.tree call.batch).unwatch = call.handled
  events : call.report.events = (Netlink.decode call.batch).1.length
  settled : call.report.events = call.report.dispatched + call.report.unresolved
  dispatched : call.report.dispatched = call.inquiries.length
  failed : call.report.failed = call.inquiries.countP Inquiry.isRejected
  failed_le : call.report.failed ≤ call.report.dispatched
  interruption : call.report.interruption = (Netlink.decode call.batch).2.interruption

theorem isAccounted (call : Call σ) : call.IsAccounted := by
  obtain ⟨pipeline, tree, batch⟩ := call
  have hwatching := pipeline.unwatch_handleBatch tree batch
  have hcounted := Pipeline.isCounted_handleAll pipeline.processRoot pipeline.useCache
    (Netlink.decode batch).1 0 ⟨⟨pipeline.classifier, []⟩, tree, {}, []⟩ ⟨rfl, rfl, rfl, rfl⟩
  rw [Nat.zero_add] at hcounted
  have hreport : (pipeline.handleBatch tree batch).report =
      { (pipeline.watch.progressOf tree (Netlink.decode batch).1).report with
        interruption := (Netlink.decode batch).2.interruption } := by
    rw [← hwatching]
    exact pipeline.watch.handleBatch_report tree batch
  have hinquiries : pipeline.inquiries tree batch =
      (pipeline.watch.progressOf tree (Netlink.decode batch).1).classifier.inquiries :=
    congrArg Watched.inquiries (pipeline.watch.handleBatch_classifier tree batch)
  have hdispatched : (pipeline.handleBatch tree batch).report.dispatched =
      (pipeline.inquiries tree batch).length := by
    rw [hreport, hinquiries]
    exact hcounted.dispatched
  have hfailed : (pipeline.handleBatch tree batch).report.failed =
      (pipeline.inquiries tree batch).countP Inquiry.isRejected := by
    rw [hreport, hinquiries]
    exact hcounted.failed
  refine ⟨hwatching, ?_, ?_, hdispatched, hfailed, ?_, ?_⟩
  · exact (congrArg BatchReport.events hreport).trans hcounted.events
  · simp only [report, handled, hreport]
    exact hcounted.settled
  · simp only [report, handled, hdispatched, hfailed]
    exact List.countP_le_length
  · exact congrArg BatchReport.interruption hreport

theorem handled_stats (call : Call σ) : call.handled.pipeline.stats =
    call.pipeline.stats.count call.report (Netlink.decode call.batch).2.stats :=
  call.pipeline.handleBatch_stats call.tree call.batch

end Call

/-! ## Balance -/

namespace PipelineStats

/-- The counters of the three layers agree, up to the frames that are truncated in their payload. -/
structure IsBalanced (stats : PipelineStats) : Prop where
  events : stats.decode.credentialEvents = stats.dispatched + stats.unresolved
  stops : stats.interruptedBatches + stats.decode.truncated ≤ stats.batches
  le_frames : stats.decode.noops + stats.decode.credentialEvents + stats.decode.ignored +
    stats.interruptedBatches ≤ stats.decode.frames
  frames_le : stats.decode.frames ≤ stats.decode.noops + stats.decode.credentialEvents +
    stats.decode.ignored + stats.interruptedBatches + stats.decode.truncated

/-- A batch that is balanced on its own leaves the counters balanced. -/
theorem IsBalanced.count {stats : PipelineStats} {report : BatchReport} {decode : DecodeStats}
    (h : stats.IsBalanced) (hbatch : (({} : PipelineStats).count report decode).IsBalanced) :
    (stats.count report decode).IsBalanced := by
  obtain ⟨hevents, hstops, hge, hle⟩ := h
  obtain ⟨hevents', hstops', hge', hle'⟩ := hbatch
  simp only [PipelineStats.count, DecodeStats.merge] at *
  exact ⟨by dsimp only; omega, by dsimp only; omega, by dsimp only; omega, by dsimp only; omega⟩

end PipelineStats

theorem Call.isBalanced_count (call : Call σ) :
    (({} : PipelineStats).count call.report (Netlink.decode call.batch).2.stats).IsBalanced := by
  have hcall := call.isAccounted
  have hwalk := Netlink.isWalkOf_walkFrom call.batch
  generalize Netlink.walkFrom call.batch 0 = walk at hwalk
  have hvisits := walk.length_visits
  have hevents : call.report.dispatched + call.report.unresolved = walk.stats.credentialEvents := by
    rw [← hcall.settled, hcall.events, hwalk.events]
    rfl
  have hinterruption := hcall.interruption.trans hwalk.interruption
  have hframes : walk.stats.frames = walk.visits.length + walk.stop.frames := rfl
  have htruncated : walk.stats.truncated = walk.stop.truncations := rfl
  simp only [PipelineStats.count, DecodeStats.merge, hwalk.stats, hinterruption]
  -- the reason to stop says whether there is one more frame, a truncation or a marker
  cases hstop : walk.stop <;>
    simp only [hstop, Netlink.Stop.frames, Netlink.Stop.truncations] at hframes htruncated <;>
    constructor <;>
    simp only [Netlink.Stop.interruption?, Option.isSome_none, Option.isSome_some, if_true,
      Bool.false_eq_true, if_false] <;>
    omega

/-! ## Runs -/

/-- A batch, and what has become of the file tree and of the classifier when it arrives. -/
structure Arrival (σ : Type) where
  edit : FileTree → FileTree
  replace : σ → σ
  batch : Bytes

/-- The call that deals with the batch. -/
def Arrival.call (arrival : Arrival σ) (pipeline : Pipeline σ) (tree : FileTree) : Call σ :=
  ⟨{ pipeline with classifier := arrival.replace pipeline.classifier }, arrival.edit tree,
    arrival.batch⟩

namespace Pipeline

/-- The calls of a run, with the pipeline at its end. Each call meets what the one before it left,
as far as nobody has changed it in between. -/
def serve (pipeline : Pipeline σ) (tree : FileTree) :
    List (Arrival σ) → List (Call σ) × Pipeline σ
  | [] => ([], pipeline)
  | arrival :: later =>
    let call := arrival.call pipeline tree
    let (calls, last) := call.handled.pipeline.serve call.handled.tree later
    (call :: calls, last)

/-- The counters have grown by what the calls report. -/
structure IsTally (start : PipelineStats) (calls : List (Call σ)) (stats : PipelineStats) :
    Prop where
  batches : stats.batches = start.batches + calls.length
  interruptedBatches : stats.interruptedBatches =
    start.interruptedBatches + calls.countP fun call ↦ call.report.interruption.isSome
  dispatched : stats.dispatched =
    start.dispatched + (calls.map fun call ↦ call.report.dispatched).sum
  failed : stats.failed = start.failed + (calls.map fun call ↦ call.report.failed).sum
  unresolved : stats.unresolved =
    start.unresolved + (calls.map fun call ↦ call.report.unresolved).sum

theorem IsTally.cons {start stats : PipelineStats} {call : Call σ} {calls : List (Call σ)}
    {decode : DecodeStats} (h : IsTally (start.count call.report decode) calls stats) :
    IsTally start (call :: calls) stats := by
  obtain ⟨hbatches, hinterrupted, hdispatched, hfailed, hunresolved⟩ := h
  simp only [PipelineStats.count] at *
  refine ⟨?_, ?_, ?_, ?_, ?_⟩
  · simp only [hbatches, List.length_cons]
    omega
  · simp only [hinterrupted, List.countP_cons]
    omega
  · simp only [hdispatched, List.map_cons, List.sum_cons]
    omega
  · simp only [hfailed, List.map_cons, List.sum_cons]
    omega
  · simp only [hunresolved, List.map_cons, List.sum_cons]
    omega

theorem isTally_serve (pipeline : Pipeline σ) (tree : FileTree) (arrivals : List (Arrival σ)) :
    IsTally pipeline.stats (pipeline.serve tree arrivals).1
      (pipeline.serve tree arrivals).2.stats := by
  induction arrivals generalizing pipeline tree with
  | nil => exact ⟨rfl, rfl, rfl, rfl, rfl⟩
  | cons arrival later ih =>
    let call := arrival.call pipeline tree
    have hrest := ih call.handled.pipeline call.handled.tree
    rw [call.handled_stats] at hrest
    exact hrest.cons

theorem isBalanced_serve (pipeline : Pipeline σ) (tree : FileTree) (arrivals : List (Arrival σ))
    (h : pipeline.stats.IsBalanced) : (pipeline.serve tree arrivals).2.stats.IsBalanced := by
  induction arrivals generalizing pipeline tree with
  | nil => exact h
  | cons arrival later ih =>
    let call := arrival.call pipeline tree
    refine ih call.handled.pipeline call.handled.tree ?_
    rw [call.handled_stats]
    exact h.count call.isBalanced_count

theorem batches_serve (pipeline : Pipeline σ) (tree : FileTree) (arrivals : List (Arrival σ)) :
    (pipeline.serve tree arrivals).1.map Call.batch = arrivals.map Arrival.batch := by
  induction arrivals generalizing pipeline tree with
  | nil => rfl
  | cons arrival later ih => exact congrArg (arrival.batch :: ·) (ih _ _)

/-- Over a run of any length, with anything done to the file tree and to the classifier between the
batches, every report accounts for its batch, and the counters of the pipeline are the sums of the
reports and balance with those of the decoder. -/
theorem serve_balance (processRoot : String) (useCache : Bool) (classifier : σ) (tree : FileTree)
    (arrivals : List (Arrival σ)) :
    let pipeline : Pipeline σ := ⟨processRoot, useCache, classifier, {}⟩
    let calls := (pipeline.serve tree arrivals).1
    let stats := (pipeline.serve tree arrivals).2.stats
    calls.map Call.batch = arrivals.map Arrival.batch ∧
      (∀ call ∈ calls, call.IsAccounted) ∧ IsTally {} calls stats ∧ stats.IsBalanced := by
  intro pipeline calls stats
  refine ⟨pipeline.batches_serve tree arrivals, fun call _ ↦ call.isAccounted, ?_, ?_⟩
  · exact pipeline.isTally_serve tree arrivals
  · exact pipeline.isBalanced_serve tree arrivals ⟨rfl, Nat.le_refl 0, Nat.le_refl 0, Nat.le_refl 0⟩

end Pipeline

end Regroup
