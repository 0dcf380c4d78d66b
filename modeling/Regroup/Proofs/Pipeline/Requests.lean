import Regroup.Proofs.Credential.Completion
import Regroup.Proofs.Engine.Writes
import Regroup.Proofs.Pipeline.Watched
import Regroup.Recorder

/-!
# The requests of a batch

The classifier is asked once for every event of a batch that can be completed, in the order of the
events. Completing reads the file tree, which the classifier changes from request to request, but it
reads status records, and those stay as they were before the batch. So which events are completed,
and to what, is settled by the tree at the start, and no answer of the classifier stops, repeats or
alters a later request.
-/

namespace Regroup

open Cgroup (IsProcessFile)
open Credential (Event IsCompletion)
open FileTree (ChangedWithin)
open Netlink (Decoder)

/-- Whatever a classifier of the type is asked, it writes to process files and nowhere else. -/
def WritesProcessFilesOnly (σ : Type) [Classifier σ] : Prop :=
  ∀ (classifier : σ) (tree : FileTree) (request : ClassifyRequest), tree.IsLinkFree →
    ChangedWithin IsProcessFile tree (Classifier.classify classifier tree request).tree

theorem Recorder.writesProcessFilesOnly : WritesProcessFilesOnly Recorder :=
  fun _ tree _ _ ↦ .refl _ tree

theorem Engine.writesProcessFilesOnly : WritesProcessFilesOnly Engine := by
  intro engine tree request hlinks
  refine (engine.move_changedWithin tree request hlinks).mono ?_
  rintro location ⟨root, rules, rule, -, hlocation⟩
  exact Cgroup.isProcessFile_of_locate tree _ location hlocation.file

theorem Watched.writesProcessFilesOnly {σ : Type} [Classifier σ] (h : WritesProcessFilesOnly σ) :
    WritesProcessFilesOnly (Watched σ) :=
  fun watched tree request hlinks ↦ h watched.classifier tree request hlinks

namespace Pipeline

variable {σ : Type} [Classifier σ]

/-- The request that an event calls for, where it can be completed from the file tree. -/
def requestFor? (processRoot : String) (useCache : Bool) (tree : FileTree) (event : Event) :
    Option ClassifyRequest :=
  match event.resolve tree processRoot with
  | .ok credential => some (credential.request useCache)
  | .error _ => none

/-- Nothing but process files has changed since the given tree, neither now nor when any of the
requests so far was made, and these are the given ones. -/
structure Progress.HasAsked (start : FileTree) (requests : List ClassifyRequest)
    (p : Progress (Watched σ)) : Prop where
  requests_eq : p.classifier.inquiries.map Inquiry.request = requests
  tree : ChangedWithin IsProcessFile start p.tree
  trees : ∀ inquiry ∈ p.classifier.inquiries, ChangedWithin IsProcessFile start inquiry.tree

theorem hasAsked_handleEvent (hσ : WritesProcessFilesOnly σ) (start : FileTree)
    (hlinks : start.IsLinkFree) (processRoot : String) (useCache : Bool) (event : Event)
    (requests : List ClassifyRequest) (p : Progress (Watched σ)) (hp : p.HasAsked start requests) :
    (handleEvent processRoot useCache event p).HasAsked start
      (requests ++ (requestFor? processRoot useCache start event).toList) := by
  have hresolve := Credential.resolve_eq start p.tree processRoot event hlinks hp.tree
  unfold requestFor?
  cases h : event.resolve start processRoot with
  | error cause =>
    obtain ⟨hclassifier, htree⟩ :=
      handleEvent_of_resolve_eq_error processRoot useCache event p cause (hresolve.trans h)
    refine ⟨?_, ?_, ?_⟩
    · simpa [hclassifier] using hp.requests_eq
    · rw [htree]
      exact hp.tree
    · rw [hclassifier]
      exact hp.trees
  | ok credential =>
    obtain ⟨hclassifier, htree⟩ :=
      handleEvent_of_resolve_eq_ok processRoot useCache event p credential (hresolve.trans h)
    refine ⟨?_, ?_, ?_⟩
    · rw [hclassifier]
      simp [Classifier.classify, hp.requests_eq]
    · rw [htree]
      exact hp.tree.trans (Watched.writesProcessFilesOnly hσ p.classifier p.tree _
        (hlinks.of_sameShape hp.tree.toSameShape))
    · rw [hclassifier]
      intro inquiry hinquiry
      rcases List.mem_append.1 hinquiry with hbefore | hnow
      · exact hp.trees inquiry hbefore
      · rw [List.mem_singleton.1 hnow]
        exact hp.tree

/-- The requests of a list of events are settled by the tree that the list is started from. -/
theorem hasAsked_handleAll (hσ : WritesProcessFilesOnly σ) (start : FileTree)
    (hlinks : start.IsLinkFree) (processRoot : String) (useCache : Bool) (events : List Event)
    (requests : List ClassifyRequest) (p : Progress (Watched σ)) (hp : p.HasAsked start requests) :
    (handleAll processRoot useCache events p).HasAsked start
      (requests ++ events.filterMap (requestFor? processRoot useCache start)) := by
  induction events generalizing requests p with
  | nil => simpa [handleAll] using hp
  | cons event events ih =>
    have hstep := hasAsked_handleEvent hσ start hlinks processRoot useCache event requests p hp
    have hrest := ih _ _ hstep
    rw [List.append_assoc] at hrest
    have hsplit : (event :: events).filterMap (requestFor? processRoot useCache start) =
        (requestFor? processRoot useCache start event).toList ++
          events.filterMap (requestFor? processRoot useCache start) := by
      rw [List.filterMap_cons]
      cases requestFor? processRoot useCache start event <;> rfl
    rw [hsplit]
    exact hrest

/-! ## Batches -/

/-- The request is that of the completed event. -/
def Completes (tree : FileTree) (processRoot : String) (useCache : Bool) (event : Event)
    (request : ClassifyRequest) : Prop :=
  ∃ credential, IsCompletion tree processRoot event credential ∧
    request = credential.request useCache

/-- The classifier is asked what the events of the batch call for in the tree before the batch. -/
structure AsksByStart (pipeline : Pipeline σ) (tree : FileTree) (batch : Bytes) : Prop where
  watching : (pipeline.watch.handleBatch tree batch).unwatch = pipeline.handleBatch tree batch
  requests : (pipeline.inquiries tree batch).map Inquiry.request =
    (Netlink.decode batch).1.filterMap
      (requestFor? pipeline.processRoot pipeline.useCache tree)
  frames : ∀ event ∈ (Netlink.decode batch).1,
    ∃ start, Decoder.StartsFrame batch start ∧ Decoder.IsReadAt batch start event
  completes : ∀ event request,
    requestFor? pipeline.processRoot pipeline.useCache tree event = some request →
      Completes tree pipeline.processRoot pipeline.useCache event request
  resolutions : ∀ inquiry ∈ pipeline.inquiries tree batch, ∀ event : Event,
    event.resolve inquiry.tree pipeline.processRoot = event.resolve tree pipeline.processRoot
  finalResolution : ∀ event : Event,
    event.resolve (pipeline.handleBatch tree batch).tree pipeline.processRoot =
      event.resolve tree pipeline.processRoot

theorem completes_of_requestFor? (processRoot : String) (useCache : Bool) (tree : FileTree)
    (event : Event) (request : ClassifyRequest)
    (h : requestFor? processRoot useCache tree event = some request) :
    Completes tree processRoot useCache event request := by
  unfold requestFor? at h
  split at h
  · rename_i credential hresolve
    have hcompletion :=
      Credential.isCompletion_of_resolve tree processRoot event credential hresolve
    exact ⟨credential, hcompletion, (Option.some.inj h).symm⟩
  · cases h

theorem asksByStart (hσ : WritesProcessFilesOnly σ) (pipeline : Pipeline σ) (tree : FileTree)
    (hlinks : tree.IsLinkFree) (batch : Bytes) : pipeline.AsksByStart tree batch := by
  have hasked := hasAsked_handleAll hσ tree hlinks pipeline.processRoot pipeline.useCache
    (Netlink.decode batch).1 [] ⟨⟨pipeline.classifier, []⟩, tree, {}, []⟩
    ⟨rfl, .refl _ tree, fun _ h ↦ by cases h⟩
  have hinquiries : pipeline.inquiries tree batch =
      (pipeline.watch.progressOf tree (Netlink.decode batch).1).classifier.inquiries :=
    congrArg Watched.inquiries (pipeline.watch.handleBatch_classifier tree batch)
  have htree : (pipeline.handleBatch tree batch).tree =
      (pipeline.watch.progressOf tree (Netlink.decode batch).1).tree := by
    rw [← unwatch_handleBatch]
    exact pipeline.watch.handleBatch_tree tree batch
  refine ⟨unwatch_handleBatch pipeline tree batch, ?_, ?_, ?_, ?_, ?_⟩
  · rw [hinquiries]
    exact hasked.requests_eq
  · exact fun event hevent ↦ (Decoder.ofBatch batch).exists_isReadAt_of_mem_drain event hevent
  · exact fun event request h ↦ completes_of_requestFor? _ _ tree event request h
  · rw [hinquiries]
    exact fun inquiry hinquiry event ↦
      Credential.resolve_eq tree inquiry.tree _ event hlinks (hasked.trees inquiry hinquiry)
  · rw [htree]
    exact fun event ↦ Credential.resolve_eq tree _ _ event hlinks hasked.tree

/-! ## The recording classifier -/

theorem requests_handleEvent (processRoot : String) (useCache : Bool) (event : Event)
    (before : List ClassifyRequest) (p : Progress (Watched Recorder))
    (hp : p.classifier.classifier.requests =
      before ++ p.classifier.inquiries.map Inquiry.request) :
    (handleEvent processRoot useCache event p).classifier.classifier.requests =
      before ++ (handleEvent processRoot useCache event p).classifier.inquiries.map
        Inquiry.request := by
  cases h : event.resolve p.tree processRoot with
  | error cause =>
    rw [(handleEvent_of_resolve_eq_error processRoot useCache event p cause h).1]
    exact hp
  | ok credential =>
    rw [(handleEvent_of_resolve_eq_ok processRoot useCache event p credential h).1]
    simp only [Classifier.classify, List.map_append, List.map_cons, List.map_nil, hp,
      List.append_assoc]

/-- The recording classifier remembers what it was asked, also when it rejects everything. -/
theorem requests_handleBatch (pipeline : Pipeline Recorder) (tree : FileTree) (batch : Bytes) :
    (pipeline.handleBatch tree batch).pipeline.classifier.requests =
      pipeline.classifier.requests ++ (pipeline.inquiries tree batch).map Inquiry.request := by
  have hrecorded := handleAll_induction pipeline.processRoot pipeline.useCache
    (fun event p ↦ requests_handleEvent pipeline.processRoot pipeline.useCache event
      pipeline.classifier.requests p)
    (Netlink.decode batch).1 ⟨⟨pipeline.classifier, []⟩, tree, {}, []⟩ (List.append_nil _).symm
  have hwatched := pipeline.watch.handleBatch_classifier tree batch
  rw [← unwatch_handleBatch, inquiries, hwatched]
  exact (congrArg (fun w ↦ w.classifier.requests) hwatched).trans hrecorded

/-- Whether the classifier records or is an engine in whatever state, a batch asks it for what the
tree before the batch completes, and the recorder remembers just that. -/
theorem handleBatch_requests (tree : FileTree) (hlinks : tree.IsLinkFree) (batch : Bytes) :
    (∀ pipeline : Pipeline Recorder, pipeline.AsksByStart tree batch ∧
      (pipeline.handleBatch tree batch).pipeline.classifier.requests =
        pipeline.classifier.requests ++ (Netlink.decode batch).1.filterMap
          (requestFor? pipeline.processRoot pipeline.useCache tree)) ∧
    ∀ pipeline : Pipeline Engine, pipeline.AsksByStart tree batch := by
  refine ⟨fun pipeline ↦ ?_, fun pipeline ↦ ?_⟩
  · have hasks := asksByStart Recorder.writesProcessFilesOnly pipeline tree hlinks batch
    exact ⟨hasks, by rw [requests_handleBatch, hasks.requests]⟩
  · exact asksByStart Engine.writesProcessFilesOnly pipeline tree hlinks batch

/-- Two processes, of which one has gone before its event is handled, and a classifier that rejects
every request. The engine writes to a process file between the same two requests. -/
theorem handleBatch_requests_with_missing_process :
    let tree : FileTree := {
      entries := [(["proc"], .directory), (["proc", "5"], .directory),
        (["proc", "5", "status"], .file (Text.encode "Uid:\t1\t2\nGid:\t3\t4\n")),
        (["cg"], .directory), (["cg", "g"], .directory),
        (["cg", "g", "cgroup.procs"], .file [])]
      workingDirectory := [] }
    let batch := Netlink.identityFrame 16 Netlink.userChanged ⟨5, 5, 1, 7⟩ ++
      Netlink.identityFrame 16 Netlink.groupChanged ⟨6, 6, 1, 8⟩ ++
      Netlink.identityFrame 16 Netlink.groupChanged ⟨5, 5, 1, 9⟩
    let recording : Pipeline Recorder := ⟨"/proc", true, { rejection := some 22 }, {}⟩
    let moving : Pipeline Engine := ⟨"/proc", true,
      ⟨"rules", none, ⟨[], []⟩, some "/cg", some [⟨.anyone, .all, "g", false, 1⟩]⟩, {}⟩
    tree.IsLinkFree ∧
      (recording.handleBatch tree batch).pipeline.classifier.requests =
        [⟨7, 4, 5, true⟩, ⟨2, 9, 5, true⟩] ∧
      (moving.inquiries tree batch).map Inquiry.request = [⟨7, 4, 5, true⟩, ⟨2, 9, 5, true⟩] ∧
      FileTree.entry? (moving.handleBatch tree batch).tree ["cg", "g", "cgroup.procs"] =
        some (.file (Text.encode "5")) := by
  intro tree batch recording moving
  have hlinks : tree.IsLinkFree := rfl
  have hrequests : (Netlink.decode batch).1.filterMap (requestFor? "/proc" true tree) =
      [⟨7, 4, 5, true⟩, ⟨2, 9, 5, true⟩] := by
    decide +kernel
  obtain ⟨hrecording, hmoving⟩ := handleBatch_requests tree hlinks batch
  exact ⟨hlinks, (hrecording recording).2.trans hrequests,
    (hmoving moving).requests.trans hrequests, by decide +kernel⟩

end Pipeline

end Regroup
