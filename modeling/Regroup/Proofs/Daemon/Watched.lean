import Regroup.Proofs.Daemon.Tasks
import Regroup.Proofs.Pipeline.Watched

/-!
# Watched controllers

A controller with a watched classifier does what it does without watching, whatever incidents it
takes, so the memory of the classifier shows which requests a whole run sends. The same holds of the
tasks that the run performs.
-/

namespace Regroup.Daemon

variable {σ : Type} [Classifier σ]

/-! ## Tasks -/

namespace Site

def unwatch (site : Site (Watched σ)) : Site σ :=
  ⟨site.pipeline.unwatch, site.tree⟩

theorem perform_unwatch (site : Site (Watched σ)) (task : Task) :
    site.unwatch.perform task = (site.perform task).unwatch := by
  cases task with
  | handle batch =>
    simp only [perform, unwatch, Pipeline.handleBatch_unwatch]
    rfl
  | reload => rfl
  | change location entry => rfl

theorem take_unwatch (destination : Log.Destination) (site : Site (Watched σ)) (step : Step) :
    site.unwatch.take destination step = (site.take destination step).unwatch := by
  cases step with
  | perform task => exact site.perform_unwatch task
  | log text => rfl

theorem foldl_take_unwatch (destination : Log.Destination) (steps : List Step)
    (site : Site (Watched σ)) :
    steps.foldl (take destination) site.unwatch = (steps.foldl (take destination) site).unwatch :=
  List.foldl_hom unwatch (take_unwatch destination)

end Site

/-! ## Controllers -/

namespace Controller

/-- The controller with its classifier watched from now on. -/
def watch (c : Controller σ) : Controller (Watched σ) :=
  ⟨c.machine, c.pipeline.watch, c.connector, c.generation, c.phase⟩

def unwatch (c : Controller (Watched σ)) : Controller σ :=
  ⟨c.machine, c.pipeline.unwatch, c.connector, c.generation, c.phase⟩

def Progress.unwatch : Progress (Watched σ) → Progress σ
  | waits c => waits c.unwatch
  | ends c result => ends c.unwatch result

theorem handleBatch_unwatch (c : Controller (Watched σ)) (batch : Bytes) :
    c.unwatch.handleBatch batch = (c.handleBatch batch).unwatch := by
  simp only [handleBatch, unwatch, Pipeline.handleBatch_unwatch]
  rfl

theorem handle_unwatch (c : Controller (Watched σ)) (incident : Incident) :
    c.unwatch.handle incident = (c.handle incident).unwatch := by
  cases incident with
  | fileChange location entry => rfl
  | reload => rfl
  | stop signal => rfl
  | delivery delivery =>
    simp only [handle, unwatch]
    rcases c.connector.receive delivery c.machine with ⟨_ | _ | ⟨batch, sender⟩, connector, m⟩
    · rfl
    · rfl
    · cases hsender : Netlink.isFromKernel sender with
      | true =>
        simp only [hsender, if_true, Progress.unwatch, ← handleBatch_unwatch]
        rfl
      | false => simp only [hsender, Bool.false_eq_true, if_false, Progress.unwatch]; rfl

theorem handleAll_unwatch (c : Controller (Watched σ)) (incidents : List Incident) :
    c.unwatch.handleAll incidents =
      ((c.handleAll incidents).1, (c.handleAll incidents).2.unwatch) := by
  induction incidents generalizing c with
  | nil => rfl
  | cons incident incidents ih =>
    simp only [handleAll, handle_unwatch]
    cases c.handle incident with
    | waits c => exact ih c
    | ends c result => rfl

omit [Classifier σ] in
theorem shutDown_unwatch (c : Controller (Watched σ)) :
    c.unwatch.shutDown = c.shutDown.unwatch := by
  unfold shutDown
  dsimp only
  -- both sides ask for the same number of overruns, of controllers of different types
  split
  · rename_i hoverruns
    split
    · rfl
    · rename_i hnone
      exact absurd hoverruns hnone
  · rename_i hnone
    split
    · rename_i hoverruns
      exact absurd hoverruns hnone
    · rfl

/-- Watching changes nothing of what a run comes to. -/
theorem run_unwatch (c : Controller (Watched σ)) (incidents : List Incident) :
    c.unwatch.run incidents = ((c.run incidents).1, (c.run incidents).2.unwatch) := by
  let started := c.log .info "Started the CGroup Rules Engine Daemon."
  have hstart : c.unwatch.run incidents =
      ((started.unwatch.handleAll incidents).1, (started.unwatch.handleAll incidents).2.shutDown) :=
    rfl
  rw [hstart, handleAll_unwatch, shutDown_unwatch]
  rfl

end Controller

end Regroup.Daemon
