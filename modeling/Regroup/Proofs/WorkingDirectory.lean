import Regroup.Proofs.Engine.Writes
import Regroup.Proofs.Pipeline.Watched

/-!
# The directory that relative paths start from

Two file trees may be the same but for the directory that relative paths start from. An absolute
path leads to the same place in both, and so does every path that is joined to one. What a pipeline
with an engine looks at are paths below three bases: the root of the process records, the root of
the groups, and the rules file. So if these are absolute, the same batch is answered in the same way
in both trees, and leaves two trees that are the same but for that directory again.
-/

namespace Regroup

open Credential (Event)
open Log (Record)
open Netlink (Decoder)

namespace Path

theorem isAbsolute_join (base path : String) (h : isAbsolute base = true) :
    isAbsolute (join base path) = true := by
  have hbase : base ≠ "" := by
    rintro rfl
    exact absurd h (by decide)
  cases hpath : isAbsolute path with
  | true => rwa [join, if_pos hpath]
  | false =>
    obtain ⟨stem, rfl | rfl, hjoin⟩ := join_eq base path hbase hpath
    · rw [hjoin, String.append_assoc, isAbsolute_append _ _ hbase]
      exact h
    · rw [hjoin, isAbsolute_append _ _ hbase]
      exact h

/-- The path is absolute if the bases are. -/
def IsAnchored (bases : List String) (path : String) : Prop :=
  (∀ base ∈ bases, isAbsolute base = true) → isAbsolute path = true

theorem IsAnchored.of_mem {bases : List String} {base : String} (h : base ∈ bases) :
    IsAnchored bases base :=
  fun habsolute ↦ habsolute base h

theorem IsAnchored.join {bases : List String} {base : String} (h : IsAnchored bases base)
    (path : String) : IsAnchored bases (Path.join base path) :=
  fun habsolute ↦ isAbsolute_join base path (h habsolute)

end Path

namespace FileTree

theorem startOf_eq (t u : FileTree) (path : String)
    (h : t.workingDirectory = u.workingDirectory ∨ Path.isAbsolute path = true) :
    t.startOf path = u.startOf path := by
  rcases h with hsame | habsolute
  · simp only [startOf, hsame]
  · simp only [startOf, habsolute, if_true]

/-- The trees are the same, except that relative paths may start from different directories if no
base is relative and no file is opened in the place of another by a relative path. -/
structure Mirrors (bases : List String) (t u : FileTree) : Prop where
  entries : t.entries = u.entries
  substitutes : t.substitutes = u.substitutes
  anchored : t.workingDirectory = u.workingDirectory ∨
    (∀ base ∈ bases, Path.isAbsolute base = true) ∧
      ∀ substitute ∈ t.substitutes, Path.isAbsolute substitute.2 = true

namespace Mirrors

variable {bases : List String} {t u : FileTree} {path : String}

theorem refl (bases : List String) (t : FileTree) : Mirrors bases t t :=
  ⟨rfl, rfl, .inl rfl⟩

theorem trans {v : FileTree} (h : Mirrors bases t u) (h' : Mirrors bases u v) :
    Mirrors bases t v := by
  refine ⟨h.entries.trans h'.entries, h.substitutes.trans h'.substitutes, ?_⟩
  rcases h.anchored with hsame | habsolute
  · rw [hsame, h.substitutes]
    exact h'.anchored
  · exact .inr habsolute

theorem entry?_eq (h : Mirrors bases t u) (location : Location) :
    t.entry? location = u.entry? location := by
  simp only [FileTree.entry?, h.entries]

theorem content?_eq (h : Mirrors bases t u) (location : Location) :
    t.content? location = u.content? location := by
  simp only [content?, h.entry?_eq]

theorem walk_eq (h : Mirrors bases t u) (location : Location) (names : List String) :
    t.walk location names = u.walk location names := by
  induction names generalizing location with
  | nil => rfl
  | cons name names ih => simp only [walk, ih, h.entry?_eq]

theorem locate_eq (h : Mirrors bases t u) (hpath : Path.IsAnchored bases path) :
    t.locate path = u.locate path := by
  have hstart := startOf_eq t u path (h.anchored.imp_right fun habsolute ↦ hpath habsolute.1)
  simp only [locate, hstart, h.walk_eq]

theorem isDirectory_eq (h : Mirrors bases t u) (hpath : Path.IsAnchored bases path) :
    t.isDirectory path = u.isDirectory path := by
  simp only [isDirectory, h.locate_eq hpath, h.entry?_eq]

/-- Also where another file is opened in the place of a path. -/
theorem locate_substituted_eq (h : Mirrors bases t u) (hpath : Path.IsAnchored bases path) :
    t.locate (t.substituted path) = u.locate (u.substituted path) := by
  have hsubstituted : u.substituted path = t.substituted path := by
    simp only [substituted, h.substitutes]
  have hstart : t.startOf (t.substituted path) = u.startOf (t.substituted path) := by
    refine startOf_eq t u _ (h.anchored.imp_right fun habsolute ↦ ?_)
    unfold substituted
    cases hlookup : t.substitutes.lookup path with
    | none => exact hpath habsolute.1
    | some target =>
      obtain ⟨before, after, hsplit, -⟩ := List.lookup_eq_some_iff.1 hlookup
      exact habsolute.2 (path, target) (by simp [hsplit])
  rw [hsubstituted]
  simp only [locate, hstart, h.walk_eq]

theorem openForReading_eq (h : Mirrors bases t u) (hpath : Path.IsAnchored bases path) :
    t.openForReading path = u.openForReading path := by
  simp only [openForReading, h.locate_substituted_eq hpath, h.entry?_eq]

theorem readText_eq (h : Mirrors bases t u) (hpath : Path.IsAnchored bases path) :
    t.readText path = u.readText path := by
  simp only [readText, read, h.openForReading_eq hpath]

theorem openForWriting_eq (h : Mirrors bases t u) (hpath : Path.IsAnchored bases path) :
    t.openForWriting path = u.openForWriting path := by
  simp only [openForWriting, h.locate_substituted_eq hpath, h.entry?_eq]

theorem put (h : Mirrors bases t u) (location : Location) (entry : Entry) :
    Mirrors bases (t.put location entry) (u.put location entry) := by
  unfold FileTree.put
  split
  · exact h
  · exact ⟨by simp only [h.entries], h.substitutes, h.anchored⟩

theorem overwrite (h : Mirrors bases t u) (location : Location) (bytes : Bytes) :
    Mirrors bases (t.overwrite location bytes) (u.overwrite location bytes) := by
  unfold FileTree.overwrite
  rw [h.content?_eq]
  split
  · exact h.put _ _
  · exact h

theorem append (h : Mirrors bases t u) (location : Location) (bytes : Bytes) :
    Mirrors bases (t.append location bytes) (u.append location bytes) := by
  unfold FileTree.append
  rw [h.content?_eq]
  split
  · exact h.put _ _
  · exact h

theorem install (h : Mirrors bases t u) (location : Location) (entry : Entry) :
    Mirrors bases (t.install location entry) (u.install location entry) := by
  have hmade (ancestors : List Location) (t u : FileTree) (h : Mirrors bases t u) :
      let make (t : FileTree) (ancestor : Location) : FileTree :=
        if (t.entry? ancestor).isNone then t.put ancestor .directory else t
      Mirrors bases (ancestors.foldl make t) (ancestors.foldl make u) := by
    induction ancestors generalizing t u with
    | nil => exact h
    | cons ancestor ancestors ih =>
      refine ih _ _ ?_
      dsimp only
      rw [h.entry?_eq]
      split
      · exact h.put _ _
      · exact h
  exact (hmade (ancestors location.dropLast) t u h).put location entry

end Mirrors

end FileTree

open FileTree (Mirrors)

/-! ## Engines -/

namespace Engine

variable {bases : List String} {t u : FileTree}

/-- The two moves came to the same, and what they leave mirrors each other. -/
structure Move.Mirrors (bases : List String) (move move' : Move) : Prop where
  result : move.result = move'.result
  records : move.records = move'.records
  tree : FileTree.Mirrors bases move.tree move'.tree

theorem Move.Mirrors.behind {move move' : Move} (h : move.Mirrors bases move')
    (records : List Record) :
    Move.Mirrors bases { move with records := records ++ move.records }
      { move' with records := records ++ move'.records } :=
  ⟨h.result, congrArg (records ++ ·) h.records, h.tree⟩

theorem mirrors_moveTo (h : Mirrors bases t u) (root : String) (hroot : Path.IsAnchored bases root)
    (process : Int32) (rule : Rule) :
    (moveTo root process rule t).Mirrors bases (moveTo root process rule u) := by
  have hgroup := hroot.join rule.destination
  unfold moveTo Cgroup.attach Cgroup.processFile
  dsimp only
  rw [h.isDirectory_eq hgroup, h.openForWriting_eq (hgroup.join _)]
  split
  · cases u.openForWriting (Path.join (Path.join root rule.destination) "cgroup.procs") with
    | error cause => exact ⟨rfl, rfl, h⟩
    | ok location => exact ⟨rfl, rfl, h.overwrite location _⟩
  · exact ⟨rfl, rfl, h⟩

theorem mirrors_moveAlong (root : String) (hroot : Path.IsAnchored bases root) (process : Int32)
    (rules : RuleSet) (h : Mirrors bases t u) :
    (moveAlong root process rules t).Mirrors bases (moveAlong root process rules u) := by
  induction rules generalizing t u with
  | nil => exact ⟨rfl, rfl, h⟩
  | cons rule rules ih =>
    obtain ⟨hresult, hrecords, htree⟩ := mirrors_moveTo h root hroot process rule
    rw [moveAlong_cons, moveAlong_cons]
    dsimp only
    rw [hresult, hrecords]
    cases (moveTo root process rule u).result with
    | error cause => exact ⟨rfl, rfl, htree⟩
    | ok _ => exact (ih htree).behind _

/-- The paths of an engine are among the bases. -/
structure LeansOn (engine : Engine) (bases : List String) : Prop where
  rulesFile : engine.rulesFile ∈ bases
  root : ∀ root, engine.root = some root → root ∈ bases

theorem readRulesFile_eq (h : Mirrors bases t u) (engine : Engine)
    (hengine : engine.LeansOn bases) : engine.readRulesFile t = engine.readRulesFile u := by
  simp only [readRulesFile, h.readText_eq (.of_mem hengine.rulesFile)]

theorem mirrors_move (h : Mirrors bases t u) (engine : Engine) (hengine : engine.LeansOn bases)
    (request : ClassifyRequest) :
    (engine.move t request).Mirrors bases (engine.move u request) := by
  have hrules : engine.rulesFor t request.useCache = engine.rulesFor u request.useCache := by
    simp only [rulesFor, readRulesFile_eq h engine hengine]
  unfold move
  rw [hrules]
  cases hroot : engine.root with
  | none => exact ⟨rfl, rfl, h⟩
  | some root =>
    dsimp only
    rcases engine.rulesFor u request.useCache with ⟨_ | rules, records⟩
    · exact ⟨rfl, rfl, h⟩
    · have hmoved : (engine.moveBy root rules request t).Mirrors bases
          (engine.moveBy root rules request u) := by
        unfold moveBy
        split
        · exact ⟨rfl, rfl, h⟩
        · exact mirrors_moveAlong root (.of_mem (hengine.root root hroot)) _ _ h
      exact hmoved.behind records

theorem load_eq (h : Mirrors bases t u) (engine : Engine) (hengine : engine.LeansOn bases) :
    engine.load t = engine.load u := by
  simp only [load, readRulesFile_eq h engine hengine]

theorem load_leansOn (engine : Engine) (tree : FileTree) (hengine : engine.LeansOn bases) :
    (engine.load tree).state.LeansOn bases := by
  unfold load
  dsimp only
  split
  · exact hengine
  · exact ⟨hengine.rulesFile, hengine.root⟩

end Engine

/-! ## Classifiers and pipelines -/

/-- The two answers are the same, and what they leave mirrors each other. -/
structure Classification.Alike {σ : Type} (bases : List String) (alike : σ → σ → Prop)
    (answer answer' : Classification σ) : Prop where
  result : answer.result = answer'.result
  state : alike answer.state answer'.state
  tree : Mirrors bases answer.tree answer'.tree
  records : answer.records = answer'.records

structure Reload.Alike {σ : Type} (alike : σ → σ → Prop) (reload reload' : Reload σ) : Prop where
  result : reload.result = reload'.result
  state : alike reload.state reload'.state
  records : reload.records = reload'.records

/-- Classifiers that are alike answer in the same way in trees that mirror each other, and stay
alike. -/
structure AnswersAlike {σ : Type} [Classifier σ] (bases : List String) (alike : σ → σ → Prop) :
    Prop where
  classify : ∀ s s' t u request, alike s s' → Mirrors bases t u →
    (Classifier.classify s t request).Alike bases alike (Classifier.classify s' u request)
  reload : ∀ s s' t u, alike s s' → Mirrors bases t u →
    (Classifier.reload s t).Alike alike (Classifier.reload s' u)
  listing : ∀ s s', alike s s' → Classifier.listing s = Classifier.listing s'

/-- The same engine, with its paths among the bases. -/
def Engine.Alike (bases : List String) (engine engine' : Engine) : Prop :=
  engine = engine' ∧ engine.LeansOn bases

theorem Engine.answersAlike (bases : List String) : AnswersAlike bases (Engine.Alike bases) := by
  constructor
  case classify =>
    rintro engine _ t u request ⟨rfl, hengine⟩ h
    have hmoved := mirrors_move h engine hengine request
    exact ⟨hmoved.result, ⟨rfl, hengine⟩, hmoved.tree, hmoved.records⟩
  case reload =>
    rintro engine _ t u ⟨rfl, hengine⟩ h
    have hload := load_eq h engine hengine
    exact ⟨congrArg Reload.result hload,
      ⟨congrArg Reload.state hload, engine.load_leansOn t hengine⟩, congrArg Reload.records hload⟩
  case listing =>
    rintro engine _ ⟨rfl, -⟩
    rfl

/-- Watched classifiers that are alike and have been asked the same. -/
def Watched.Alike {σ : Type} (alike : σ → σ → Prop) (w w' : Watched σ) : Prop :=
  alike w.classifier w'.classifier ∧
    w.inquiries.map Inquiry.request = w'.inquiries.map Inquiry.request

theorem AnswersAlike.watched {σ : Type} [Classifier σ] {bases : List String}
    {alike : σ → σ → Prop} (hσ : AnswersAlike bases alike) :
    AnswersAlike bases (Watched.Alike alike) where
  classify w w' t u request h hmirrors := by
    obtain ⟨hresult, hstate, htree, hrecords⟩ := hσ.classify _ _ t u request h.1 hmirrors
    refine ⟨hresult, ⟨hstate, ?_⟩, htree, hrecords⟩
    simp only [Classifier.classify, List.map_append, h.2, List.map_cons, List.map_nil]
  reload w w' t u h hmirrors := by
    obtain ⟨hresult, hstate, hrecords⟩ := hσ.reload _ _ t u h.1 hmirrors
    exact ⟨hresult, ⟨hstate, h.2⟩, hrecords⟩
  listing w w' h := hσ.listing _ _ h.1

namespace Pipeline

variable {σ : Type} [Classifier σ] {bases : List String} {alike : σ → σ → Prop}

/-- Pipelines with the same settings and counters, and with classifiers that are alike. -/
structure Alike (bases : List String) (alike : σ → σ → Prop) (pipeline pipeline' : Pipeline σ) :
    Prop where
  base : pipeline.processRoot ∈ bases
  processRoot : pipeline'.processRoot = pipeline.processRoot
  useCache : pipeline'.useCache = pipeline.useCache
  classifier : alike pipeline.classifier pipeline'.classifier
  stats : pipeline'.stats = pipeline.stats

structure Progress.Alike (bases : List String) (alike : σ → σ → Prop) (p p' : Progress σ) :
    Prop where
  classifier : alike p.classifier p'.classifier
  tree : Mirrors bases p.tree p'.tree
  report : p'.report = p.report
  records : p'.records = p.records

theorem resolve_eq {t u : FileTree} (h : Mirrors bases t u) (event : Event) (processRoot : String)
    (hbase : processRoot ∈ bases) : event.resolve t processRoot = event.resolve u processRoot := by
  have hpath : Path.IsAnchored bases (Credential.statusPath processRoot event.process) :=
    ((Path.IsAnchored.of_mem hbase).join _).join _
  simp only [Event.resolve, Credential.readStatus, h.openForReading_eq hpath]

theorem alike_handleEvent (hσ : AnswersAlike bases alike) (processRoot : String)
    (hbase : processRoot ∈ bases) (useCache : Bool) (event : Event) (p p' : Progress σ)
    (h : p.Alike bases alike p') :
    (handleEvent processRoot useCache event p).Alike bases alike
      (handleEvent processRoot useCache event p') := by
  unfold handleEvent
  dsimp only
  rw [← resolve_eq h.tree event processRoot hbase, h.report, h.records]
  cases event.resolve p.tree processRoot with
  | error cause => exact ⟨h.classifier, h.tree, rfl, rfl⟩
  | ok credential =>
    have hanswer := hσ.classify _ _ _ _ (credential.request useCache) h.classifier h.tree
    refine ⟨hanswer.state, hanswer.tree, ?_, ?_⟩
    · simp only [dispatch, hanswer.result]
    · simp only [dispatch, hanswer.result, hanswer.records]

theorem alike_handleEvents (hσ : AnswersAlike bases alike) (processRoot : String)
    (hbase : processRoot ∈ bases) (useCache : Bool) (d : Decoder) (p p' : Progress σ)
    (h : p.Alike bases alike p') :
    (handleEvents processRoot useCache d p').1 = (handleEvents processRoot useCache d p).1 ∧
      (handleEvents processRoot useCache d p).2.Alike bases alike
        (handleEvents processRoot useCache d p').2 := by
  fun_induction handleEvents processRoot useCache d p generalizing p' with
  | case1 d p event d' records hnext logged ih =>
    rw [handleEvents_of_next_eq_some _ _ _ _ _ _ p' hnext]
    refine ih _ (alike_handleEvent hσ processRoot hbase useCache event _ _ ?_)
    exact ⟨h.classifier, h.tree, h.report, congrArg (· ++ records) h.records⟩
  | case2 d p d' records hnext =>
    rw [handleEvents_of_next_eq_none _ _ _ _ _ p' hnext]
    exact ⟨rfl, h.classifier, h.tree, h.report, congrArg (· ++ records) h.records⟩

/-- The same batch is handled in the same way. -/
theorem alike_handleBatch (hσ : AnswersAlike bases alike) (pipeline pipeline' : Pipeline σ)
    (h : pipeline.Alike bases alike pipeline') (t u : FileTree) (htree : Mirrors bases t u)
    (batch : Bytes) :
    let handled := pipeline.handleBatch t batch
    let handled' := pipeline'.handleBatch u batch
    handled.pipeline.Alike bases alike handled'.pipeline ∧
      Mirrors bases handled.tree handled'.tree ∧ handled'.records = handled.records := by
  obtain ⟨hdecoder, hdone⟩ := alike_handleEvents hσ pipeline.processRoot h.base pipeline.useCache
    (Decoder.ofBatch batch) ⟨pipeline.classifier, t, {}, []⟩ ⟨pipeline'.classifier, u, {}, []⟩
    ⟨h.classifier, htree, rfl, rfl⟩
  simp only [handleBatch, h.processRoot, h.useCache, hdecoder, hdone.report, hdone.records, h.stats]
  exact ⟨⟨h.base, rfl, rfl, hdone.classifier, rfl⟩, hdone.tree, trivial⟩

end Pipeline

end Regroup
