import Mathlib.Data.List.Forall2
import Regroup.Proofs.Pipeline.Balance
import Regroup.Recorder

/-!
# What the log says of a batch

The log of a batch tells what has become of each of its events: it was dropped, and why, or its
process was put to the classifier, and how that ended. It does so event by event and leaves nothing
out, so the counters of the report are found again by counting records. The classifier logs as it
likes in the midst of this. What is left of the log when it is silenced is what handling the batch
itself has to say, and silencing changes nothing else.
-/

namespace Regroup

open Credential (Event)
open Log (Record)
open Netlink (Decoder)

/-- A classifier that does as the one it stands for and logs nothing. -/
structure Silenced (σ : Type) where
  classifier : σ

variable {σ : Type} [Classifier σ]

instance : Classifier (Silenced σ) where
  classify silenced tree request :=
    let answer := Classifier.classify silenced.classifier tree request
    ⟨answer.result, ⟨answer.state⟩, answer.tree, []⟩
  reload silenced tree :=
    let reload := Classifier.reload silenced.classifier tree
    ⟨reload.result, ⟨reload.state⟩, []⟩
  listing silenced := Classifier.listing silenced.classifier

namespace Log.Record

/-- What stands before the first space of the message. -/
def firstWord (record : Record) : String :=
  String.ofList (record.message.toList.takeWhile (· ≠ ' '))

/-- Whether a record is there to be noticed: details and errors of the daemon itself are not. -/
def isNotice (record : Record) : Bool :=
  record.level = .info ∨ record.level = .warn

theorem firstWord_append (level : Level) (target : Target) (first rest : String)
    (h : ' ' ∈ first.toList) :
    firstWord ⟨level, target, first ++ rest⟩ = firstWord ⟨level, target, first⟩ := by
  obtain ⟨before, after, hfirst, hbefore⟩ := List.eq_append_cons_of_mem h
  have hword : ∀ c ∈ before, decide (c ≠ ' ') = true := by
    intro c hc
    apply decide_eq_true
    rintro rfl
    exact hbefore hc
  simp only [firstWord, String.toList_append, hfirst, List.append_assoc, List.cons_append,
    List.takeWhile_append_of_pos hword]
  rfl

end Log.Record

/-- The counters of the report are numbers of records, which are told by their first words. -/
structure BatchReport.Counts (report : BatchReport) (notices : List Record) : Prop where
  unresolved : report.unresolved = (notices.map Record.firstWord).count "Dropping"
  dispatched : report.dispatched = (notices.map Record.firstWord).count "Attempting"
  failed : report.failed = (notices.map Record.firstWord).count "FAILED"

/-- Further records are counted by the words that they add. -/
theorem BatchReport.Counts.append {report later : BatchReport} {notices told : List Record}
    (h : report.Counts notices) (words : List String) (hwords : told.map Record.firstWord = words)
    (hunresolved : later.unresolved = report.unresolved + words.count "Dropping")
    (hdispatched : later.dispatched = report.dispatched + words.count "Attempting")
    (hfailed : later.failed = report.failed + words.count "FAILED") :
    later.Counts (notices ++ told) := by
  constructor
  · rw [List.map_append, hwords, List.count_append, ← h.unresolved, hunresolved]
  · rw [List.map_append, hwords, List.count_append, ← h.dispatched, hdispatched]
  · rw [List.map_append, hwords, List.count_append, ← h.failed, hfailed]

/-- An event together with the classifier and the file tree that it meets. -/
structure Encounter (σ : Type) where
  event : Event
  classifier : σ
  tree : FileTree

namespace Encounter

/-- What the log says of an event: it is dropped when it cannot be completed, or else its process is
put to the classifier, which accepts or refuses. -/
inductive IsToldBy (processRoot : String) (useCache : Bool) (e : Encounter σ) :
    List Record → Prop where
  | dropped (cause : Credential.ResolveError)
      (hresolve : e.event.resolve e.tree processRoot = .error cause) :
      e.IsToldBy processRoot useCache
        [⟨.warn, .pipeline, s!"Dropping {e.event.kind.label} event for PID {e.event.process} " ++
          s!"(tGID {e.event.threadGroup}): {cause.message}"⟩]
  | accepted (credential : Credential.Resolved) (done : Unit)
      (hresolve : e.event.resolve e.tree processRoot = .ok credential)
      (hanswer : (Classifier.classify e.classifier e.tree (credential.request useCache)).result =
        .ok done) :
      e.IsToldBy processRoot useCache
        [⟨.info, .dispatch, s!"Attempting to change cgroup for PID: {credential.process}, " ++
          s!"UID: {credential.user}, GID: {credential.group}"⟩, ⟨.info, .dispatch, "OK"⟩]
  | refused (credential : Credential.Resolved) (cause : ClassifyError)
      (hresolve : e.event.resolve e.tree processRoot = .ok credential)
      (hanswer : (Classifier.classify e.classifier e.tree (credential.request useCache)).result =
        .error cause) :
      e.IsToldBy processRoot useCache
        [⟨.info, .dispatch, s!"Attempting to change cgroup for PID: {credential.process}, " ++
          s!"UID: {credential.user}, GID: {credential.group}"⟩,
          ⟨.warn, .dispatch, s!"FAILED (Error Code: {cause.code}): {cause.message}"⟩]

variable (processRoot : String) (useCache : Bool)

def told (e : Encounter σ) : List Record :=
  match e.event.resolve e.tree processRoot with
  | .error cause => [Pipeline.dropRecord e.event cause]
  | .ok credential =>
    [attemptRecord credential, outcomeRecord
      (Classifier.classify e.classifier e.tree (credential.request useCache)).result]

/-- All that is logged of an event, also by the classifier. -/
def logged (e : Encounter σ) : List Record :=
  ⟨.debug, .pipeline, e.event.text⟩ ::
    match e.event.resolve e.tree processRoot with
    | .error cause => [Pipeline.dropRecord e.event cause]
    | .ok credential => (dispatch e.classifier e.tree credential useCache).records

def silence (e : Encounter σ) : Encounter (Silenced σ) :=
  ⟨e.event, ⟨e.classifier⟩, e.tree⟩

theorem isToldBy_told (e : Encounter σ) :
    e.IsToldBy processRoot useCache (e.told processRoot useCache) := by
  unfold told
  cases hresolve : e.event.resolve e.tree processRoot with
  | error cause => exact .dropped cause hresolve
  | ok credential =>
    dsimp only
    cases hanswer :
      (Classifier.classify e.classifier e.tree (credential.request useCache)).result with
    | ok done => exact .accepted credential done hresolve hanswer
    | error cause => exact .refused credential cause hresolve hanswer

/-- The classifier comes in between the attempt and the outcome. -/
theorem told_sublist_logged (e : Encounter σ) :
    (e.told processRoot useCache).Sublist (e.logged processRoot useCache) := by
  unfold told logged
  apply List.Sublist.cons
  cases e.event.resolve e.tree processRoot with
  | error cause => exact List.Sublist.refl _
  | ok credential =>
    apply List.Sublist.cons_cons
    exact List.sublist_append_right _ _

theorem flatMap_told_sublist (met : List (Encounter σ)) :
    (met.flatMap (told processRoot useCache)).Sublist
      (met.flatMap (logged processRoot useCache)) := by
  induction met with
  | nil => exact List.Sublist.refl _
  | cons e later ih =>
    rw [List.flatMap_cons, List.flatMap_cons]
    exact (e.told_sublist_logged processRoot useCache).append ih

theorem logged_silence (e : Encounter σ) :
    (e.silence.logged processRoot useCache).filter Record.isNotice =
      e.told processRoot useCache := by
  have hdetail : Record.isNotice ⟨.debug, .pipeline, e.event.text⟩ = false := rfl
  simp only [logged, told, silence, List.filter_cons, hdetail, Bool.false_eq_true, if_false]
  cases e.event.resolve e.tree processRoot with
  | error cause => rfl
  | ok credential =>
    simp only [dispatch, Classifier.classify]
    cases (Classifier.classify e.classifier e.tree (credential.request useCache)).result with
    | ok done => rfl
    | error cause => rfl

end Encounter

namespace Pipeline

variable (processRoot : String) (useCache : Bool)

/-- The events in turn, each with what the requests before it have made of the classifier and of the
file tree. -/
def encounters (classifier : σ) (tree : FileTree) : List Event → List (Encounter σ)
  | [] => []
  | event :: later =>
    ⟨event, classifier, tree⟩ ::
      match event.resolve tree processRoot with
      | .error _ => encounters classifier tree later
      | .ok credential =>
        let answer := Classifier.classify classifier tree (credential.request useCache)
        encounters answer.state answer.tree later

theorem map_event_encounters (classifier : σ) (tree : FileTree) (events : List Event) :
    (encounters processRoot useCache classifier tree events).map Encounter.event = events := by
  induction events generalizing classifier tree with
  | nil => rfl
  | cons event later ih =>
    rw [encounters, List.map_cons]
    cases event.resolve tree processRoot with
    | error cause => rw [ih]
    | ok credential => rw [ih]

/-! ## The log event by event -/

theorem encounters_cons (event : Event) (later : List Event) (p : Progress σ) :
    encounters processRoot useCache p.classifier p.tree (event :: later) =
      ⟨event, p.classifier, p.tree⟩ ::
        encounters processRoot useCache (handleEvent processRoot useCache event p).classifier
          (handleEvent processRoot useCache event p).tree later := by
  cases hresolve : event.resolve p.tree processRoot with
  | error cause =>
    obtain ⟨hclassifier, htree⟩ :=
      handleEvent_of_resolve_eq_error processRoot useCache event p cause hresolve
    simp only [encounters, hresolve, hclassifier, htree]
  | ok credential =>
    obtain ⟨hclassifier, htree⟩ :=
      handleEvent_of_resolve_eq_ok processRoot useCache event p credential hresolve
    simp only [encounters, hresolve, hclassifier, htree]

theorem records_handleEvent (event : Event) (p : Progress σ) :
    (handleEvent processRoot useCache event p).records =
      p.records ++ Encounter.logged processRoot useCache ⟨event, p.classifier, p.tree⟩ := by
  cases hresolve : event.resolve p.tree processRoot with
  | error cause =>
    simp only [handleEvent, Encounter.logged, hresolve, List.append_assoc, List.singleton_append]
  | ok credential =>
    simp only [handleEvent, Encounter.logged, hresolve, List.append_assoc, List.singleton_append]

end Pipeline

namespace Netlink.Decoder

/-- Nothing is logged on the way to an event. -/
theorem records_of_next_eq_some (d d' : Decoder) (event : Event) (records : List Record)
    (h : d.next = (some event, d', records)) : records = [] := by
  fun_induction next d with
  | case1 d found d'' hstep =>
    obtain ⟨-, -, hrecords⟩ := h
    rfl
  | case2 d d'' hstep ih => exact ih h
  | case3 d fault d'' hstep => cases h

/-- What the decoder logs is not meant to be noticed. -/
theorem notices_next (d : Decoder) : d.next.2.2.filter Record.isNotice = [] := by
  fun_induction next d with
  | case1 d event d' hstep => rfl
  | case2 d d' hstep ih => exact ih
  | case3 d fault d' hstep => cases fault <;> rfl

theorem notices_drain (d : Decoder) : d.drain.2.2.filter Record.isNotice = [] := by
  fun_induction drain d with
  | case1 d event d' records hnext events last records' hdrain ih =>
    have hrecords := d.notices_next
    rw [hnext] at hrecords
    rw [hdrain] at ih
    rw [List.filter_append, hrecords, ih, List.append_nil]
  | case2 d d' records hnext =>
    have hrecords := d.notices_next
    rwa [hnext] at hrecords

end Netlink.Decoder

namespace Pipeline

variable (processRoot : String) (useCache : Bool)

theorem records_handleEvents (d : Decoder) (p : Progress σ) :
    (handleEvents processRoot useCache d p).2.records =
      p.records ++
        (encounters processRoot useCache p.classifier p.tree d.drain.1).flatMap
          (Encounter.logged processRoot useCache) ++ d.drain.2.2 := by
  fun_induction handleEvents processRoot useCache d p with
  | case1 d p event d' records hnext logged ih =>
    obtain rfl := d.records_of_next_eq_some d' event records hnext
    have hlogged : logged = p := by simp only [logged, List.append_nil]
    rw [hlogged] at ih ⊢
    rw [ih, records_handleEvent, d.drain_of_next_eq_some d' event [] hnext, encounters_cons,
      List.flatMap_cons, List.nil_append]
    simp only [List.append_assoc]
  | case2 d p d' records hnext =>
    rw [d.drain_of_next_eq_none d' records hnext]
    simp [encounters]

/-- The log of a batch, event by event, with what the decoder and the pipeline have to say at its
end. -/
theorem records_handleBatch (pipeline : Pipeline σ) (tree : FileTree) (batch : Bytes) :
    (pipeline.handleBatch tree batch).records =
      (encounters pipeline.processRoot pipeline.useCache pipeline.classifier tree
          (Netlink.decode batch).1).flatMap
        (Encounter.logged pipeline.processRoot pipeline.useCache) ++
      ((Decoder.ofBatch batch).drain.2.2 ++
        interruptionRecords (Netlink.decode batch).2.interruption) := by
  have hdecoder := (handleEvents_eq_drain pipeline.processRoot pipeline.useCache
    (Decoder.ofBatch batch) ⟨pipeline.classifier, tree, {}, []⟩).1
  have hrecords := records_handleEvents pipeline.processRoot pipeline.useCache
    (Decoder.ofBatch batch) ⟨pipeline.classifier, tree, {}, []⟩
  simp only [handleBatch, hdecoder, hrecords, List.nil_append, List.append_assoc]
  rfl

def silence (pipeline : Pipeline σ) : Pipeline (Silenced σ) :=
  ⟨pipeline.processRoot, pipeline.useCache, ⟨pipeline.classifier⟩, pipeline.stats⟩

/-- The records at the levels of notices that handling a batch itself leaves in the log, whatever
the classifier logs. -/
def notices (pipeline : Pipeline σ) (tree : FileTree) (batch : Bytes) : List Record :=
  (pipeline.silence.handleBatch tree batch).records.filter Record.isNotice

theorem encounters_silence (classifier : σ) (tree : FileTree) (events : List Event) :
    encounters processRoot useCache (⟨classifier⟩ : Silenced σ) tree events =
      (encounters processRoot useCache classifier tree events).map Encounter.silence := by
  induction events generalizing classifier tree with
  | nil => rfl
  | cons event later ih =>
    simp only [encounters, Classifier.classify]
    cases event.resolve tree processRoot with
    | error cause => simp only [ih, List.map_cons, Encounter.silence]
    | ok credential => simp only [ih, List.map_cons, Encounter.silence]

theorem notices_eq (pipeline : Pipeline σ) (tree : FileTree) (batch : Bytes) :
    pipeline.notices tree batch =
      (encounters pipeline.processRoot pipeline.useCache pipeline.classifier tree
          (Netlink.decode batch).1).flatMap
        (Encounter.told pipeline.processRoot pipeline.useCache) ++
      interruptionRecords (Netlink.decode batch).2.interruption := by
  have hinterruption (interruption : Option Netlink.Interruption) :
      (interruptionRecords interruption).filter Record.isNotice =
        interruptionRecords interruption := by
    cases interruption <;> rfl
  rw [notices, records_handleBatch]
  simp only [silence, encounters_silence, List.filter_append, List.filter_flatMap,
    List.flatMap_map, Encounter.logged_silence, hinterruption, Decoder.notices_drain,
    List.nil_append]

/-- The progress of a silenced classifier as progress of the classifier itself. -/
def Progress.audible (p : Progress (Silenced σ)) : Progress σ :=
  ⟨p.classifier.classifier, p.tree, p.report, []⟩

theorem audible_handleEvent (event : Event) (p : Progress (Silenced σ)) :
    (handleEvent processRoot useCache event p).audible =
      (handleEvent processRoot useCache event p.audible).unlogged := by
  cases hresolve : event.resolve p.tree processRoot with
  | error cause => simp only [handleEvent, Progress.audible, Progress.unlogged, hresolve]
  | ok credential =>
    simp only [handleEvent, Progress.audible, Progress.unlogged, hresolve, dispatch,
      Classifier.classify]

theorem audible_handleAll (events : List Event) (p : Progress (Silenced σ)) :
    (handleAll processRoot useCache events p).audible =
      (handleAll processRoot useCache events p.audible).unlogged := by
  induction events generalizing p with
  | nil => rfl
  | cons event later ih =>
    let silent := handleEvent processRoot useCache event p
    let heard := handleEvent processRoot useCache event p.audible
    calc
      (handleAll processRoot useCache (event :: later) p).audible =
          (handleAll processRoot useCache later silent.audible).unlogged := ih silent
      _ = (handleAll processRoot useCache later heard.unlogged).unlogged := by
        rw [audible_handleEvent]
      _ = (handleAll processRoot useCache later heard).unlogged :=
        (unlogged_handleAll processRoot useCache later heard).symm

theorem firstWord_dropRecord (event : Event) (cause : Credential.ResolveError) :
    (dropRecord event cause).firstWord = "Dropping" := by
  simp only [dropRecord, String.append_assoc]
  exact Record.firstWord_append .warn .pipeline "Dropping " _ (by decide)

theorem firstWord_attemptRecord (credential : Credential.Resolved) :
    (attemptRecord credential).firstWord = "Attempting" := by
  simp only [attemptRecord, String.append_assoc]
  exact Record.firstWord_append .info .dispatch "Attempting to change cgroup for PID: " _
    (by decide)

theorem firstWord_outcomeRecord_error (cause : ClassifyError) :
    (outcomeRecord (.error cause)).firstWord = "FAILED" := by
  simp only [outcomeRecord, String.append_assoc]
  exact Record.firstWord_append .warn .dispatch "FAILED (Error Code: " _ (by decide)

theorem firstWord_outcomeRecord_ok (done : Unit) :
    (outcomeRecord (.ok done)).firstWord = "OK" := by
  cases done
  decide

theorem counts_handleEvent (event : Event) (p : Progress σ) (notices : List Record)
    (h : p.report.Counts notices) :
    (handleEvent processRoot useCache event p).report.Counts
      (notices ++ Encounter.told processRoot useCache ⟨event, p.classifier, p.tree⟩) := by
  cases hresolve : event.resolve p.tree processRoot with
  | error cause =>
    simp only [handleEvent, Encounter.told, hresolve]
    refine h.append ["Dropping"] ?_ rfl rfl rfl
    rw [List.map_singleton, firstWord_dropRecord]
  | ok credential =>
    simp only [handleEvent, Encounter.told, hresolve, dispatch]
    cases (Classifier.classify p.classifier p.tree (credential.request useCache)).result with
    | ok done =>
      refine h.append ["Attempting", "OK"] ?_ rfl rfl rfl
      rw [List.map_cons, List.map_singleton, firstWord_attemptRecord, firstWord_outcomeRecord_ok]
    | error cause =>
      refine h.append ["Attempting", "FAILED"] ?_ rfl rfl rfl
      rw [List.map_cons, List.map_singleton, firstWord_attemptRecord,
        firstWord_outcomeRecord_error]

theorem counts_handleAll (events : List Event) (p : Progress σ) (notices : List Record)
    (h : p.report.Counts notices) :
    (handleAll processRoot useCache events p).report.Counts
      (notices ++ (encounters processRoot useCache p.classifier p.tree events).flatMap
        (Encounter.told processRoot useCache)) := by
  induction events generalizing p notices with
  | nil => simpa [encounters, handleAll] using h
  | cons event later ih =>
    have hstep := counts_handleEvent processRoot useCache event p notices h
    rw [encounters_cons, List.flatMap_cons, ← List.append_assoc]
    exact ih _ _ hstep

/-! ## Batches -/

/-- What the log says at the end of a batch. -/
inductive IsClosedBy : Option Netlink.Interruption → List Record → Prop where
  | complete : IsClosedBy none []
  | interrupted (interruption : Netlink.Interruption) :
      IsClosedBy (some interruption)
        [⟨.warn, .pipeline,
          s!"Kernel reported an {interruption.name}, rest of the batch discarded"⟩]

theorem isClosedBy_interruptionRecords (interruption : Option Netlink.Interruption) :
    IsClosedBy interruption (interruptionRecords interruption) := by
  cases interruption with
  | none => exact .complete
  | some interruption => exact .interrupted interruption

theorem counts_append_interruptionRecords (report : BatchReport) (notices : List Record)
    (interruption : Option Netlink.Interruption) (h : report.Counts notices) :
    report.Counts (notices ++ interruptionRecords interruption) := by
  cases interruption with
  | none => exact h.append [] rfl rfl rfl rfl
  | some interruption =>
    refine h.append ["Kernel"] ?_ rfl rfl rfl
    cases interruption <;> decide

/-- Silencing the classifier changes nothing of what a batch comes to but the log. -/
structure IsUnmovedBySilence (pipeline : Pipeline σ) (start : FileTree) (batch : Bytes) : Prop where
  report : (pipeline.silence.handleBatch start batch).report =
    (pipeline.handleBatch start batch).report
  tree : (pipeline.silence.handleBatch start batch).tree = (pipeline.handleBatch start batch).tree
  pipeline : (pipeline.silence.handleBatch start batch).pipeline =
    (pipeline.handleBatch start batch).pipeline.silence

theorem isUnmovedBySilence (pipeline : Pipeline σ) (tree : FileTree) (batch : Bytes) :
    pipeline.IsUnmovedBySilence tree batch := by
  have hprogress : (pipeline.silence.progressOf tree (Netlink.decode batch).1).audible =
      (pipeline.progressOf tree (Netlink.decode batch).1).unlogged :=
    audible_handleAll pipeline.processRoot pipeline.useCache (Netlink.decode batch).1
      ⟨⟨pipeline.classifier⟩, tree, {}, []⟩
  have hreport : (pipeline.silence.handleBatch tree batch).report =
      (pipeline.handleBatch tree batch).report := by
    rw [handleBatch_report, handleBatch_report]
    exact congrArg (fun p : Progress σ ↦ { p.report with
      interruption := (Netlink.decode batch).2.interruption }) hprogress
  refine ⟨hreport, ?_, ?_⟩
  · rw [handleBatch_tree, handleBatch_tree]
    exact congrArg Progress.tree hprogress
  · have hclassifier : (pipeline.silence.handleBatch tree batch).pipeline.classifier =
        ⟨(pipeline.handleBatch tree batch).pipeline.classifier⟩ := by
      rw [handleBatch_classifier, handleBatch_classifier]
      exact congrArg (fun p : Progress σ ↦ (⟨p.classifier⟩ : Silenced σ)) hprogress
    have hstats : (pipeline.silence.handleBatch tree batch).pipeline.stats =
        (pipeline.handleBatch tree batch).pipeline.stats := by
      rw [handleBatch_stats, handleBatch_stats, hreport]
      rfl
    calc
      (pipeline.silence.handleBatch tree batch).pipeline =
          ⟨pipeline.processRoot, pipeline.useCache,
            (pipeline.silence.handleBatch tree batch).pipeline.classifier,
            (pipeline.silence.handleBatch tree batch).pipeline.stats⟩ := rfl
      _ = (pipeline.handleBatch tree batch).pipeline.silence := by
        rw [hclassifier, hstats]
        rfl

/-- The log of a batch tells of every event, in turn and to the end, and the report counts what it
tells. -/
structure IsChronicled (pipeline : Pipeline σ) (tree : FileTree) (batch : Bytes) : Prop where
  silencing : pipeline.IsUnmovedBySilence tree batch
  logged : (pipeline.notices tree batch).Sublist (pipeline.handleBatch tree batch).records
  told :
    let met := encounters pipeline.processRoot pipeline.useCache pipeline.classifier tree
      (Netlink.decode batch).1
    met.map Encounter.event = (Netlink.decode batch).1 ∧
      ∃ accounts closing,
        List.Forall₂ (Encounter.IsToldBy pipeline.processRoot pipeline.useCache) met accounts ∧
          IsClosedBy (Netlink.decode batch).2.interruption closing ∧
          pipeline.notices tree batch = accounts.flatten ++ closing
  interruption : (pipeline.handleBatch tree batch).report.interruption =
    (Netlink.decode batch).2.interruption
  counts : (pipeline.handleBatch tree batch).report.Counts (pipeline.notices tree batch)

/-- Whatever the batch, the files and the classifier, no event is passed over in silence: each is
either dropped with a warning or put to the classifier with a record of the attempt and one of the
outcome, in the order of the events, and a batch that is cut short says so at its end. -/
theorem handleBatch_chronicle (pipeline : Pipeline σ) (tree : FileTree) (batch : Bytes) :
    pipeline.IsChronicled tree batch := by
  let met := encounters pipeline.processRoot pipeline.useCache pipeline.classifier tree
    (Netlink.decode batch).1
  have hnotices := pipeline.notices_eq tree batch
  have hreport := pipeline.handleBatch_report tree batch
  refine ⟨pipeline.isUnmovedBySilence tree batch, ?_, ⟨?_, ?_⟩, ?_, ?_⟩
  · rw [hnotices, records_handleBatch]
    apply List.Sublist.append
    · exact Encounter.flatMap_told_sublist _ _ met
    · exact List.sublist_append_right _ _
  · exact map_event_encounters _ _ _ _ _
  · refine ⟨met.map (Encounter.told pipeline.processRoot pipeline.useCache), _, ?_,
      isClosedBy_interruptionRecords _, hnotices⟩
    rw [List.forall₂_map_right_iff, List.forall₂_same]
    exact fun e _ ↦ e.isToldBy_told _ _
  · exact congrArg BatchReport.interruption hreport
  · have hcounts := counts_handleAll pipeline.processRoot pipeline.useCache
      (Netlink.decode batch).1 ⟨pipeline.classifier, tree, {}, []⟩ [] ⟨rfl, rfl, rfl⟩
    rw [hnotices]
    apply counts_append_interruptionRecords
    rw [hreport]
    exact ⟨hcounts.unresolved, hcounts.dispatched, hcounts.failed⟩

/-- A process that has gone, one that the classifier refuses to move, and a marker of the kernel. -/
example :
    let tree : FileTree := {
      entries := [(["proc"], .directory), (["proc", "5"], .directory),
        (["proc", "5", "status"], .file (Text.encode "Uid:\t1\t2\nGid:\t3\t4\n"))]
      workingDirectory := [] }
    let batch := Netlink.identityFrame 16 Netlink.groupChanged ⟨6, 6, 1, 8⟩ ++
      Netlink.identityFrame 16 Netlink.userChanged ⟨5, 5, 1, 7⟩ ++
      Netlink.controlFrame Netlink.overrunKind
    let pipeline : Pipeline Recorder := ⟨"/proc", true, { rejection := some 22 }, {}⟩
    (pipeline.notices tree batch).map Record.text =
      ["WARN Dropping GID event for PID 6 (tGID 6): reading /proc/6/status failed",
        "INFO Attempting to change cgroup for PID: 5, UID: 7, GID: 4",
        "WARN FAILED (Error Code: 22): classification failed with code 22",
        "WARN Kernel reported an overrun, rest of the batch discarded"] := by
  decide +kernel

end Pipeline

end Regroup
