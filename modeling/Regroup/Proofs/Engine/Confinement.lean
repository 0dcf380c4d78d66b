import Regroup.Proofs.Engine.Grounded
import Regroup.Proofs.Pipeline.Watched

/-!
# Where a run may write

A session is a pipeline over an engine together with the file tree that both work on, and a run is
a list of operations on it. What a run writes to is settled by the requests that it made: every
location that changes is the process file of a destination that one of them selected, and the shape
of the tree stays what it was.
-/

namespace Regroup

open Credential (Event)
open FileTree (ChangedWithin SameShape)

/-- The location is the destination of a rule that the request selected, in the given tree. -/
def Inquiry.Reaches (start : FileTree) (inquiry : Inquiry Engine) (location : Location) : Prop :=
  ∃ root rules rule, inquiry.classifier.Selects inquiry.tree inquiry.request root rules rule ∧
    Engine.IsDestination root start rule location

/-! ## Batches -/

namespace Pipeline

/-- The engine is the given one, now and whenever it was asked, and what has been written to is
where the requests so far reach. -/
structure Progress.HasMoved (engine : Engine) (start : FileTree)
    (p : Progress (Watched Engine)) : Prop where
  classifier : p.classifier.classifier = engine
  classifiers : ∀ inquiry ∈ p.classifier.inquiries, inquiry.classifier = engine
  tree : ChangedWithin
    (fun location ↦ ∃ inquiry ∈ p.classifier.inquiries, inquiry.Reaches start location) start p.tree

theorem hasMoved_handleEvent (engine : Engine) (start : FileTree) (hlinks : start.IsLinkFree)
    (processRoot : String) (useCache : Bool) (event : Event) (p : Progress (Watched Engine))
    (hp : p.HasMoved engine start) :
    (handleEvent processRoot useCache event p).HasMoved engine start := by
  cases h : event.resolve p.tree processRoot with
  | error cause =>
    obtain ⟨hclassifier, htree⟩ :=
      handleEvent_of_resolve_eq_error processRoot useCache event p cause h
    refine ⟨?_, ?_, ?_⟩
    · rw [hclassifier]
      exact hp.classifier
    · rw [hclassifier]
      exact hp.classifiers
    · rw [hclassifier, htree]
      exact hp.tree
  | ok credential =>
    obtain ⟨hclassifier, htree⟩ :=
      handleEvent_of_resolve_eq_ok processRoot useCache event p credential h
    have hshape := hp.tree.toSameShape
    have hmove := p.classifier.classifier.move_changedWithin p.tree (credential.request useCache)
      (hlinks.of_sameShape hshape)
    refine ⟨?_, ?_, ?_⟩
    · rw [hclassifier]
      exact hp.classifier
    · rw [hclassifier]
      intro inquiry hinquiry
      rcases List.mem_append.1 hinquiry with hbefore | hnow
      · exact hp.classifiers inquiry hbefore
      · rw [List.mem_singleton.1 hnow]
        exact hp.classifier
    · rw [hclassifier, htree]
      refine (hp.tree.mono ?_).trans (hmove.mono ?_)
      · rintro location ⟨inquiry, hinquiry, hreaches⟩
        exact ⟨inquiry, List.mem_append_left _ hinquiry, hreaches⟩
      · rintro location ⟨root, rules, rule, hselects, hdestination⟩
        exact ⟨_, List.mem_append_right _ (List.mem_singleton.2 rfl), root, rules, rule, hselects,
          hdestination.of_sameShape hshape⟩

/-- A batch leaves the engine as it is and writes to where its requests reach. -/
theorem handleBatch_changedWithin (pipeline : Pipeline Engine) (tree : FileTree)
    (hlinks : tree.IsLinkFree) (batch : Bytes) :
    (pipeline.handleBatch tree batch).pipeline.classifier = pipeline.classifier ∧
      (∀ inquiry ∈ pipeline.inquiries tree batch, inquiry.classifier = pipeline.classifier) ∧
      ChangedWithin
        (fun location ↦ ∃ inquiry ∈ pipeline.inquiries tree batch, inquiry.Reaches tree location)
        tree (pipeline.handleBatch tree batch).tree := by
  have hstart : Progress.HasMoved pipeline.classifier tree
      ⟨⟨pipeline.classifier, []⟩, tree, {}, []⟩ := ⟨rfl, by simp, .refl _ tree⟩
  have hmoved := handleAll_induction pipeline.processRoot pipeline.useCache
    (hasMoved_handleEvent pipeline.classifier tree hlinks pipeline.processRoot pipeline.useCache)
    (Netlink.decode batch).1 _ hstart
  have hclassifier := pipeline.watch.handleBatch_classifier tree batch
  have htree := pipeline.watch.handleBatch_tree tree batch
  rw [← unwatch_handleBatch]
  refine ⟨?_, ?_, ?_⟩
  · exact (congrArg Watched.classifier hclassifier).trans hmoved.classifier
  · rw [inquiries, hclassifier]
    exact hmoved.classifiers
  · rw [inquiries, hclassifier]
    change ChangedWithin _ tree (pipeline.watch.handleBatch tree batch).tree
    rw [htree]
    exact hmoved.tree

end Pipeline

/-! ## Sessions -/

structure Session where
  pipeline : Pipeline Engine
  tree : FileTree

/-- What can be asked of a session. -/
inductive Operation where
  | init
  | load
  | reload
  | classify (request : ClassifyRequest)
  | batch (bytes : Bytes)

namespace Session

def engine (session : Session) : Engine :=
  session.pipeline.classifier

def withEngine (session : Session) (engine : Engine) : Session :=
  { session with pipeline := { session.pipeline with classifier := engine } }

/-- An engine that has neither been started nor loaded. -/
def fresh (rulesFile : String) (configuredRoot : Option String) (identities : Identities)
    (processRoot : String) (useCache : Bool) (tree : FileTree) : Session where
  pipeline :=
    { processRoot := processRoot
      useCache := useCache
      classifier := { rulesFile, configuredRoot, identities } }
  tree := tree

def apply (session : Session) : Operation → Session
  | .init => session.withEngine (session.engine.init session.tree).state
  | .load => session.withEngine (session.engine.load session.tree).state
  | .reload => session.withEngine (Classifier.reload session.engine session.tree).state
  | .classify request =>
    let answer := Classifier.classify session.engine session.tree request
    { session.withEngine answer.state with tree := answer.tree }
  | .batch bytes =>
    let handled := session.pipeline.handleBatch session.tree bytes
    ⟨handled.pipeline, handled.tree⟩

def run (session : Session) (operations : List Operation) : Session :=
  operations.foldl apply session

/-- The requests that an operation makes. -/
def inquiries (session : Session) : Operation → List (Inquiry Engine)
  | .init | .load | .reload => []
  | .classify request => [⟨session.engine, session.tree, request⟩]
  | .batch bytes => session.pipeline.inquiries session.tree bytes

/-- The requests that a run makes. -/
def allInquiries (session : Session) : List Operation → List (Inquiry Engine)
  | [] => []
  | operation :: operations =>
    session.inquiries operation ++ (session.apply operation).allInquiries operations

/-- An operation writes to where its requests reach, and keeps the engine grounded. -/
theorem apply_changedWithin (session : Session) (hlinks : session.tree.IsLinkFree)
    (hgrounded : session.engine.IsGrounded session.tree) (operation : Operation) :
    ChangedWithin
        (fun location ↦ ∃ inquiry ∈ session.inquiries operation,
          inquiry.Reaches session.tree location)
        session.tree (session.apply operation).tree ∧
      (session.apply operation).engine.IsGrounded session.tree ∧
      ∀ inquiry ∈ session.inquiries operation, inquiry.classifier = session.engine := by
  cases operation with
  | init => exact ⟨.refl _ _, hgrounded.init, by simp [inquiries]⟩
  | load => exact ⟨.refl _ _, hgrounded.load, by simp [inquiries]⟩
  | reload => exact ⟨.refl _ _, hgrounded.load, by simp [inquiries]⟩
  | classify request =>
    refine ⟨(session.engine.move_changedWithin session.tree request hlinks).mono ?_, hgrounded,
      by simp [inquiries]⟩
    rintro location ⟨root, rules, rule, hselects, hdestination⟩
    exact ⟨_, List.mem_singleton.2 rfl, root, rules, rule, hselects, hdestination⟩
  | batch bytes =>
    obtain ⟨hclassifier, hclassifiers, hchanged⟩ :=
      session.pipeline.handleBatch_changedWithin session.tree hlinks bytes
    have hengine : (session.apply (.batch bytes)).engine = session.engine := hclassifier
    exact ⟨hchanged, by rw [hengine]; exact hgrounded, hclassifiers⟩

theorem run_changedWithin (session : Session) (hlinks : session.tree.IsLinkFree)
    (hgrounded : session.engine.IsGrounded session.tree) (operations : List Operation) :
    ChangedWithin
        (fun location ↦ ∃ inquiry ∈ session.allInquiries operations,
          inquiry.Reaches session.tree location)
        session.tree (session.run operations).tree ∧
      ∀ inquiry ∈ session.allInquiries operations,
        inquiry.classifier.IsGrounded session.tree := by
  induction operations generalizing session with
  | nil => exact ⟨.refl _ _, fun _ h ↦ by cases h⟩
  | cons operation operations ih =>
    obtain ⟨hchanged, hgrounded', hclassifiers⟩ :=
      session.apply_changedWithin hlinks hgrounded operation
    have hshape := hchanged.toSameShape
    obtain ⟨hrest, hrestGrounded⟩ :=
      ih (session.apply operation) (hlinks.of_sameShape hshape) (hgrounded'.of_sameShape hshape)
    refine ⟨(hchanged.mono ?_).trans (hrest.mono ?_), ?_⟩
    · rintro location ⟨inquiry, hinquiry, hreaches⟩
      exact ⟨inquiry, List.mem_append_left _ hinquiry, hreaches⟩
    · rintro location ⟨inquiry, hinquiry, root, rules, rule, hselects, hdestination⟩
      exact ⟨inquiry, List.mem_append_right _ hinquiry, root, rules, rule, hselects,
        hdestination.of_sameShape hshape⟩
    · intro inquiry hinquiry
      rcases List.mem_append.1 hinquiry with hnow | hlater
      · rw [hclassifiers inquiry hnow]
        exact hgrounded
      · exact (hrestGrounded inquiry hlater).of_sameShape hshape.symm

/-- Whatever a fresh session is asked, no file or directory comes or goes, and every file that holds
something else afterwards is the process file straight below the root that a selected rule names. -/
theorem run_confined (rulesFile : String) (configuredRoot : Option String)
    (identities : Identities) (processRoot : String) (useCache : Bool) (tree : FileTree)
    (hlinks : tree.IsLinkFree) (operations : List Operation) :
    let session := fresh rulesFile configuredRoot identities processRoot useCache tree
    let after := (session.run operations).tree
    SameShape tree after ∧
      ∀ location, after.entry? location ≠ tree.entry? location →
        (∃ held holds, tree.entry? location = some (.file held) ∧
          after.entry? location = some (.file holds)) ∧
        ∃ inquiry ∈ session.allInquiries operations, ∃ root rootLocation rules rule,
          inquiry.classifier.Selects inquiry.tree inquiry.request root rules rule ∧
          tree.locate root = .ok rootLocation ∧ StaysBelow rule.destination ∧
          location =
            FileTree.locationBelow rootLocation rule.destination ++ ["cgroup.procs"] := by
  intro session after
  have hgrounded : session.engine.IsGrounded tree := by
    refine ⟨fun root hroot ↦ ?_, fun rules hcache ↦ ?_⟩
    · cases hroot
    · cases hcache
  obtain ⟨hchanged, hinquiries⟩ := session.run_changedWithin hlinks hgrounded operations
  refine ⟨hchanged.toSameShape, fun location hne ↦ ⟨hchanged.files_of_ne location hne, ?_⟩⟩
  obtain ⟨inquiry, hinquiry, root, rules, rule, hselects, hdestination⟩ :=
    Classical.not_not.1 (mt (hchanged.unchanged location) hne)
  have hasked := hinquiries inquiry hinquiry
  obtain ⟨rootLocation, hroot⟩ := hasked.root root hselects.settled
  have hbelow := hasked.staysBelow inquiry.tree inquiry.request root rules rule hselects
  exact ⟨inquiry, hinquiry, root, rootLocation, rules, rule, hselects, hroot, hbelow,
    hdestination.eq_below hroot hbelow⟩

/-- A destination with slashes and a dot, written to by a request and by an event. -/
theorem run_confined_to_group :
    let tree : FileTree := {
      entries := [(["proc"], .directory), (["proc", "5"], .directory),
        (["proc", "5", "status"], .file (Text.encode "Uid:\t1\t2\nGid:\t3\t4\n")),
        (["cg"], .directory), (["cg", "g"], .directory),
        (["cg", "g", "cgroup.procs"], .file []),
        (["rules"], .file (Text.encode "* * //g/./\n"))]
      workingDirectory := [] }
    let operations : List Operation := [.init, .load, .classify ⟨1, 1, 70, true⟩,
      .batch (Netlink.userFrame 5 1 7)]
    let session := fresh "/rules" (some "/cg") ⟨[], []⟩ "/proc" false tree
    let location := ["cg", "g", "cgroup.procs"]
    tree.IsLinkFree ∧
      FileTree.entry? (session.run operations).tree location = some (.file (Text.encode "50")) ∧
      ∃ inquiry ∈ session.allInquiries operations, ∃ root rootLocation rules rule,
        inquiry.classifier.Selects inquiry.tree inquiry.request root rules rule ∧
        tree.locate root = .ok rootLocation ∧ StaysBelow rule.destination ∧
        location = FileTree.locationBelow rootLocation rule.destination ++ ["cgroup.procs"] := by
  intro tree operations session location
  have hlinks : tree.IsLinkFree := rfl
  have hwritten : FileTree.entry? (session.run operations).tree location =
      some (.file (Text.encode "50")) := by
    decide +kernel
  have hne : FileTree.entry? (session.run operations).tree location ≠ tree.entry? location := by
    rw [hwritten]
    decide
  have hconfined := run_confined "/rules" (some "/cg") ⟨[], []⟩ "/proc" false tree hlinks operations
  exact ⟨hlinks, hwritten, (hconfined.2 location hne).2⟩

end Session

end Regroup
