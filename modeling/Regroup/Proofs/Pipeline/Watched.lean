import Regroup.Proofs.Pipeline.Events

/-!
# Watched classifiers

A watched classifier answers as the one that it watches and remembers what it was asked, with the
state and the file tree that each request met. A pipeline does the same with a watched classifier as
without watching, so the memory shows which requests a batch gives rise to, whatever the classifier.
-/

namespace Regroup

open Credential (Event)
open Netlink (Decoder)

/-- A request together with the classifier and the file tree that it met. -/
structure Inquiry (σ : Type) where
  classifier : σ
  tree : FileTree
  request : ClassifyRequest

structure Watched (σ : Type) where
  classifier : σ
  inquiries : List (Inquiry σ)

variable {σ : Type} [Classifier σ]

instance : Classifier (Watched σ) where
  classify w tree request :=
    let answer := Classifier.classify w.classifier tree request
    ⟨answer.result, ⟨answer.state, w.inquiries ++ [⟨w.classifier, tree, request⟩]⟩, answer.tree,
      answer.records⟩
  reload w tree :=
    let reload := Classifier.reload w.classifier tree
    ⟨reload.result, ⟨reload.state, w.inquiries⟩, reload.records⟩
  listing w := Classifier.listing w.classifier

namespace Pipeline

/-- The pipeline with its classifier watched from now on. -/
def watch (pipeline : Pipeline σ) : Pipeline (Watched σ) :=
  ⟨pipeline.processRoot, pipeline.useCache, ⟨pipeline.classifier, []⟩, pipeline.stats⟩

def unwatch (pipeline : Pipeline (Watched σ)) : Pipeline σ :=
  ⟨pipeline.processRoot, pipeline.useCache, pipeline.classifier.classifier, pipeline.stats⟩

def Progress.unwatch (p : Progress (Watched σ)) : Progress σ :=
  ⟨p.classifier.classifier, p.tree, p.report, p.records⟩

def Handled.unwatch (handled : Handled (Watched σ)) : Handled σ :=
  ⟨handled.pipeline.unwatch, handled.tree, handled.report, handled.records⟩

theorem unwatch_handleEvent (processRoot : String) (useCache : Bool) (event : Event)
    (p : Progress (Watched σ)) :
    (handleEvent processRoot useCache event p).unwatch =
      handleEvent processRoot useCache event p.unwatch := by
  simp only [handleEvent, Progress.unwatch]
  split <;> rfl

theorem unwatch_handleEvents (processRoot : String) (useCache : Bool) (d : Decoder)
    (p : Progress (Watched σ)) :
    handleEvents processRoot useCache d p.unwatch =
      ((handleEvents processRoot useCache d p).1,
        (handleEvents processRoot useCache d p).2.unwatch) := by
  fun_induction handleEvents processRoot useCache d p with
  | case1 d p event d' records hnext logged ih =>
    rw [unwatch_handleEvent] at ih
    rw [handleEvents_of_next_eq_some _ _ _ _ _ _ _ hnext]
    exact ih
  | case2 d p d' records hnext =>
    rw [handleEvents_of_next_eq_none _ _ _ _ _ _ hnext]
    rfl

theorem handleBatch_unwatch (pipeline : Pipeline (Watched σ)) (tree : FileTree) (batch : Bytes) :
    pipeline.unwatch.handleBatch tree batch = (pipeline.handleBatch tree batch).unwatch := by
  have h := unwatch_handleEvents pipeline.processRoot pipeline.useCache (Decoder.ofBatch batch)
    ⟨pipeline.classifier, tree, {}, []⟩
  simp only [Progress.unwatch] at h
  simp only [handleBatch, unwatch, h]
  rfl

/-- Watching changes nothing of what a batch comes to. -/
theorem unwatch_handleBatch (pipeline : Pipeline σ) (tree : FileTree) (batch : Bytes) :
    (pipeline.watch.handleBatch tree batch).unwatch = pipeline.handleBatch tree batch :=
  (pipeline.watch.handleBatch_unwatch tree batch).symm

/-- What the classifier is asked in the course of a batch. -/
def inquiries (pipeline : Pipeline σ) (tree : FileTree) (batch : Bytes) : List (Inquiry σ) :=
  (pipeline.watch.handleBatch tree batch).pipeline.classifier.inquiries

/-- The progress of a classifier that remembers further inquiries from before. -/
def Progress.recalling (before : List (Inquiry σ)) (p : Progress (Watched σ)) :
    Progress (Watched σ) :=
  { p with classifier := ⟨p.classifier.classifier, before ++ p.classifier.inquiries⟩ }

theorem handleEvent_recalling (processRoot : String) (useCache : Bool)
    (before : List (Inquiry σ)) (event : Event) (p : Progress (Watched σ)) :
    handleEvent processRoot useCache event (p.recalling before) =
      (handleEvent processRoot useCache event p).recalling before := by
  simp only [handleEvent, Progress.recalling]
  split
  · rfl
  · simp only [dispatch, Classifier.classify, List.append_assoc]

/-- A batch adds its inquiries to those that are remembered. -/
theorem inquiries_handleBatch (pipeline : Pipeline (Watched σ)) (tree : FileTree)
    (batch : Bytes) :
    (pipeline.handleBatch tree batch).pipeline.classifier.inquiries =
      pipeline.classifier.inquiries ++ pipeline.unwatch.inquiries tree batch := by
  let events := (Netlink.decode batch).1
  let fresh := pipeline.unwatch.watch
  have hrecalls : pipeline.progressOf tree events =
      (fresh.progressOf tree events).recalling pipeline.classifier.inquiries := by
    have hstart : (⟨pipeline.classifier, tree, {}, []⟩ : Progress (Watched σ)) =
        Progress.recalling pipeline.classifier.inquiries ⟨fresh.classifier, tree, {}, []⟩ := by
      simp [Progress.recalling, fresh, unwatch, watch]
    rw [progressOf, hstart]
    exact List.foldl_hom (Progress.recalling pipeline.classifier.inquiries)
      fun p event ↦ handleEvent_recalling _ _ _ event p
  rw [handleBatch_classifier, hrecalls, inquiries, handleBatch_classifier]
  rfl

end Pipeline

end Regroup
