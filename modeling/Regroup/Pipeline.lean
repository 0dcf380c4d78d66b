import Regroup.Classifier
import Regroup.Credential.Status
import Regroup.Netlink.Batch

/-!
# The event pipeline

The pipeline takes a batch of frames and, event by event, completes the event and asks the
classifier to move its process. Each event is dealt with before the next one is decoded. An event
that cannot be completed is dropped with a warning; a request that fails is reported and never
repeated.

The counters are natural numbers. Those of one batch are bounded by its length, and the sums over
all batches stay below `2 ^ 64` as long as no more events than that have been received.
-/

namespace Regroup

open Credential (Event Resolved)
open Log (Record)
open Netlink (DecodeStats Decoder Interruption)

/-- What happened to one batch. -/
structure BatchReport where
  events : Nat := 0
  dispatched : Nat := 0
  failed : Nat := 0
  unresolved : Nat := 0
  interruption : Option Interruption := none
deriving DecidableEq

/-- Counters over all batches. -/
structure PipelineStats where
  batches : Nat := 0
  interruptedBatches : Nat := 0
  decode : DecodeStats := {}
  dispatched : Nat := 0
  failed : Nat := 0
  unresolved : Nat := 0
deriving DecidableEq

namespace PipelineStats

def count (stats : PipelineStats) (report : BatchReport) (decode : DecodeStats) :
    PipelineStats where
  batches := stats.batches + 1
  interruptedBatches :=
    stats.interruptedBatches + if report.interruption.isSome then 1 else 0
  decode := stats.decode.merge decode
  dispatched := stats.dispatched + report.dispatched
  failed := stats.failed + report.failed
  unresolved := stats.unresolved + report.unresolved

def text (stats : PipelineStats) : String :=
  s!"{stats.batches} batches ({stats.interruptedBatches} cut short), " ++
    s!"{stats.decode.credentialEvents} credential events, {stats.decode.ignored} ignored, " ++
    s!"{stats.decode.truncated} truncated, {stats.dispatched} classified " ++
    s!"({stats.failed} failed), {stats.unresolved} unresolved"

end PipelineStats

structure Pipeline (σ : Type) where
  processRoot : String
  useCache : Bool
  classifier : σ
  stats : PipelineStats := {}

variable {σ : Type} [Classifier σ]

/-! ## Requests -/

def Credential.Resolved.request (credential : Resolved) (useCache : Bool) : ClassifyRequest :=
  ⟨credential.user, credential.group, credential.process, useCache⟩

def attemptRecord (credential : Resolved) : Record :=
  ⟨.info, .dispatch, s!"Attempting to change cgroup for PID: {credential.process}, " ++
    s!"UID: {credential.user}, GID: {credential.group}"⟩

def outcomeRecord : Except ClassifyError Unit → Record
  | .ok _ => ⟨.info, .dispatch, "OK"⟩
  | .error cause =>
    ⟨.warn, .dispatch, s!"FAILED (Error Code: {cause.code}): {cause.message}"⟩

/-- Asks the classifier once and logs the attempt and its outcome. -/
def dispatch (classifier : σ) (tree : FileTree) (credential : Resolved) (useCache : Bool) :
    Classification σ :=
  let answer := Classifier.classify classifier tree (credential.request useCache)
  { answer with
    records := attemptRecord credential :: answer.records ++ [outcomeRecord answer.result] }

/-! ## Events -/

namespace Pipeline

/-- A batch that is being handled. -/
structure Progress (σ : Type) where
  classifier : σ
  tree : FileTree
  report : BatchReport
  records : List Record

def dropRecord (event : Event) (cause : Credential.ResolveError) : Record :=
  ⟨.warn, .pipeline, s!"Dropping {event.kind.label} event for PID {event.process} " ++
    s!"(tGID {event.threadGroup}): {cause.message}"⟩

def handleEvent (processRoot : String) (useCache : Bool) (event : Event) (p : Progress σ) :
    Progress σ :=
  let records := p.records ++ [⟨.debug, .pipeline, event.text⟩]
  let report := { p.report with events := p.report.events + 1 }
  match event.resolve p.tree processRoot with
  | .error cause =>
    { p with
      report := { report with unresolved := report.unresolved + 1 }
      records := records ++ [dropRecord event cause] }
  | .ok credential =>
    let answer := dispatch p.classifier p.tree credential useCache
    let failures :=
      match answer.result with
      | .ok _ => 0
      | .error _ => 1
    { classifier := answer.state
      tree := answer.tree
      report :=
        { report with
          dispatched := report.dispatched + 1
          failed := report.failed + failures }
      records := records ++ answer.records }

/-- Decodes and handles events in turn until the decoder yields no more. -/
def handleEvents (processRoot : String) (useCache : Bool) (d : Decoder) (p : Progress σ) :
    Decoder × Progress σ :=
  match _hnext : d.next with
  | (some event, d', records) =>
    let logged := { p with records := p.records ++ records }
    handleEvents processRoot useCache d' (handleEvent processRoot useCache event logged)
  | (none, d', records) => (d', { p with records := p.records ++ records })
termination_by d.rest.length
decreasing_by
  have hlt := d.next_rest_lt (by simp [_hnext])
  simpa [_hnext] using hlt

/-- What handling a batch came to. -/
structure Handled (σ : Type) where
  pipeline : Pipeline σ
  tree : FileTree
  report : BatchReport
  records : List Record

def interruptionRecords : Option Interruption → List Record
  | none => []
  | some interruption =>
    [⟨.warn, .pipeline,
      s!"Kernel reported an {interruption.name}, rest of the batch discarded"⟩]

def handleBatch (pipeline : Pipeline σ) (tree : FileTree) (batch : Bytes) : Handled σ :=
  let start : Progress σ := ⟨pipeline.classifier, tree, {}, []⟩
  let (decoder, done) :=
    handleEvents pipeline.processRoot pipeline.useCache (Decoder.ofBatch batch) start
  let report := { done.report with interruption := decoder.interruption }
  { pipeline :=
      { pipeline with
        classifier := done.classifier
        stats := pipeline.stats.count report decoder.stats }
    tree := done.tree
    report := report
    records := done.records ++ interruptionRecords decoder.interruption }

end Pipeline

end Regroup
