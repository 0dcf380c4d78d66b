import Regroup.Daemon.Controller

/-!
# The tasks of the controller

An incident gives the controller at most one task: a batch from the kernel is handled, the rules are
read again, or someone else changes a file. Apart from its tasks a controller only writes its log,
and where the log goes to a file those writes are part of what later tasks meet. So what an incident
does to the pipeline and to the files is a fold over steps, which are its task and lines of the log.
-/

namespace Regroup.Daemon

open Connector (Delivery)
open Log (Destination Outlets Record)
open Netlink (FrameHeader ReceiveOutcome)

inductive Task where
  | handle (batch : Bytes)
  | reload
  | change (location : Location) (entry : Entry)

/-- The pipeline and the files that it works on. -/
structure Site (σ : Type) where
  pipeline : Pipeline σ
  tree : FileTree

inductive Step where
  | perform (task : Task)
  | log (text : Bytes)

def Step.task? : Step → Option Task
  | perform task => some task
  | log _ => none

/-- What writing to the log does to the files. -/
def loggedTree (destination : Destination) (tree : FileTree) (text : Bytes) : FileTree :=
  match destination with
  | .file location => tree.append location text
  | _ => tree

namespace Site

variable {σ : Type} [Classifier σ]

def perform (site : Site σ) : Task → Site σ
  | .handle batch =>
    let handled := site.pipeline.handleBatch site.tree batch
    ⟨handled.pipeline, handled.tree⟩
  | .reload =>
    let classifier := (Classifier.reload site.pipeline.classifier site.tree).state
    ⟨{ site.pipeline with classifier }, site.tree⟩
  | .change location entry => ⟨site.pipeline, site.tree.install location entry⟩

def take (destination : Destination) (site : Site σ) : Step → Site σ
  | .perform task => site.perform task
  | .log text => ⟨site.pipeline, loggedTree destination site.tree text⟩

/-- A log that goes to no file leaves no trace among the files. -/
theorem foldl_take_of_not_file (destination : Destination)
    (hdestination : ∀ location, destination ≠ .file location) (steps : List Step) (site : Site σ) :
    steps.foldl (take destination) site = (steps.filterMap Step.task?).foldl perform site := by
  induction steps generalizing site with
  | nil => rfl
  | cons step steps ih =>
    cases step with
    | perform task => exact ih _
    | log text =>
      have hsite : take destination site (.log text) = site := by
        cases destination with
        | file location => exact absurd rfl (hdestination location)
        | errorOutput | output | closed => rfl
      rw [List.foldl_cons, hsite]
      exact ih site

theorem foldl_take_pipeline (destination : Destination) (steps : List Step) (site : Site σ)
    (h : steps.filterMap Step.task? = []) :
    (steps.foldl (take destination) site).pipeline = site.pipeline := by
  induction steps generalizing site with
  | nil => rfl
  | cons step steps ih =>
    cases step with
    | perform task => cases h
    | log text => exact ih _ h

theorem foldl_take_logs (destination : Destination) (texts : List Bytes) (site : Site σ) :
    (texts.map Step.log).foldl (take destination) site =
      ⟨site.pipeline, texts.foldl (loggedTree destination) site.tree⟩ := by
  induction texts generalizing site with
  | nil => rfl
  | cons text texts ih => exact ih _

end Site

/-! ## Writing the log -/

/-- The later machine has written to the log and changed no file otherwise. -/
structure Machine.OnlyLogs (m m' : Machine) : Prop where
  destination : m'.destination = m.destination
  tree : ∃ texts : List Bytes, m'.tree = texts.foldl (loggedTree m.destination) m.tree

namespace Machine.OnlyLogs

variable {m m' m'' : Machine}

theorem of_eq (hdestination : m'.destination = m.destination) (htree : m'.tree = m.tree) :
    m.OnlyLogs m' :=
  ⟨hdestination, [], htree⟩

theorem refl (m : Machine) : m.OnlyLogs m :=
  of_eq rfl rfl

theorem trans (h : m.OnlyLogs m') (h' : m'.OnlyLogs m'') : m.OnlyLogs m'' := by
  obtain ⟨texts, htree⟩ := h.tree
  obtain ⟨texts', htree'⟩ := h'.tree
  refine ⟨h'.destination.trans h.destination, texts ++ texts', ?_⟩
  rw [htree', h.destination, htree, List.foldl_append]

theorem write (h : m.OnlyLogs m') (text : String) : m.OnlyLogs (m'.write text) := by
  refine h.trans ⟨rfl, [Text.encode text], ?_⟩
  simp only [Machine.write, Machine.tree, Outlets.write, loggedTree, List.foldl_cons,
    List.foldl_nil]
  cases m'.destination <;> rfl

theorem note (h : m.OnlyLogs m') (effect : Effect) : m.OnlyLogs (m'.note effect) :=
  h.trans (of_eq rfl rfl)

theorem log (h : m.OnlyLogs m') (record : Record) : m.OnlyLogs (m'.log record) := by
  unfold Machine.log
  dsimp only
  split
  · exact (h.note _).write _
  · exact h.note _

theorem logAll (h : m.OnlyLogs m') (records : List Record) : m.OnlyLogs (m'.logAll records) := by
  induction records generalizing m' with
  | nil => exact h
  | cons record records ih => exact ih (h.log record)

end Machine.OnlyLogs

namespace Controller

variable {σ : Type}

@[simp]
theorem log_connector (c : Controller σ) (level : Log.Level) (message : String) :
    (c.log level message).connector = c.connector := rfl

@[simp]
theorem log_generation (c : Controller σ) (level : Log.Level) (message : String) :
    (c.log level message).generation = c.generation := rfl

@[simp]
theorem enter_connector (c : Controller σ) (phase : Phase) :
    (c.enter phase).connector = c.connector := rfl

@[simp]
theorem enter_generation (c : Controller σ) (phase : Phase) :
    (c.enter phase).generation = c.generation := rfl

/-! ## Advancing -/

variable [Classifier σ]

def site (c : Controller σ) : Site σ :=
  ⟨c.pipeline, c.machine.tree⟩

/-- On the way from one controller to another the tasks are performed in turn, and besides that only
the log is written. -/
structure Advances (c : Controller σ) (tasks : List Task) (c' : Controller σ) : Prop where
  destination : c'.machine.destination = c.machine.destination
  site : ∃ steps : List Step, steps.filterMap Step.task? = tasks ∧
    c'.site = steps.foldl (Site.take c.machine.destination) c.site

variable {c c' c'' : Controller σ}

theorem Advances.trans {tasks tasks' : List Task} (h : c.Advances tasks c')
    (h' : c'.Advances tasks' c'') : c.Advances (tasks ++ tasks') c'' := by
  obtain ⟨steps, rfl, hsite⟩ := h.site
  obtain ⟨steps', rfl, hsite'⟩ := h'.site
  refine ⟨h'.destination.trans h.destination, steps ++ steps', List.filterMap_append, ?_⟩
  rw [hsite', h.destination, hsite, List.foldl_append]

theorem Advances.of_task (task : Task)
    (hdestination : c'.machine.destination = c.machine.destination)
    (hsite : c'.site = c.site.perform task) : c.Advances [task] c' :=
  ⟨hdestination, [.perform task], rfl, hsite⟩

theorem Advances.of_onlyLogs (hpipeline : c'.pipeline = c.pipeline)
    (h : c.machine.OnlyLogs c'.machine) : c.Advances [] c' := by
  obtain ⟨texts, htree⟩ := h.tree
  refine ⟨h.destination, texts.map .log, ?_, ?_⟩
  · rw [List.filterMap_map]
    exact List.filterMap_eq_nil_iff.2 fun _ _ ↦ rfl
  · rw [Site.foldl_take_logs]
    simp only [Controller.site, hpipeline, htree]

theorem Advances.refl (c : Controller σ) : c.Advances [] c :=
  .of_onlyLogs rfl (.refl _)

theorem Advances.then_logs {tasks : List Task} (h : c.Advances tasks c')
    (hpipeline : c''.pipeline = c'.pipeline) (hlogs : c'.machine.OnlyLogs c''.machine) :
    c.Advances tasks c'' := by
  have hadvances := h.trans (.of_onlyLogs hpipeline hlogs)
  rwa [List.append_nil] at hadvances

theorem Advances.log {tasks : List Task} (h : c.Advances tasks c') (level : Log.Level)
    (message : String) : c.Advances tasks (c'.log level message) :=
  h.then_logs rfl ((Machine.OnlyLogs.refl _).log _)

theorem Advances.enter {tasks : List Task} (h : c.Advances tasks c') (phase : Phase) :
    c.Advances tasks (c'.enter phase) :=
  h.then_logs rfl ((Machine.OnlyLogs.refl _).log _)

theorem advances_handleBatch (c : Controller σ) (batch : Bytes) :
    c.Advances [.handle batch] (c.handleBatch batch) := by
  let handled := c.pipeline.handleBatch c.machine.tree batch
  let reached : Controller σ :=
    { c with machine := c.machine.withTree handled.tree, pipeline := handled.pipeline }
  have htask : c.Advances [.handle batch] reached := .of_task _ rfl rfl
  have hlogs : reached.machine.OnlyLogs (c.handleBatch batch).machine :=
    ((Machine.OnlyLogs.refl _).logAll _).note _
  exact htask.then_logs rfl hlogs

theorem advances_reload (c : Controller σ) : c.Advances [.reload] c.reload := by
  let begun : Controller σ := { c.enter .reloading with generation := c.generation + 1 }
  let announced : Controller σ :=
    begun.log .info s!"Reloading rules configuration (generation {c.generation + 1})."
  let classifier :=
    (Classifier.reload announced.pipeline.classifier announced.machine.tree).state
  let reached : Controller σ :=
    { announced with pipeline := { announced.pipeline with classifier } }
  have hbegun : c.Advances [] begun :=
    ((Advances.refl c).enter .reloading).then_logs rfl (.refl _)
  have htask : announced.Advances [.reload] reached := .of_task _ rfl rfl
  have hlogs : reached.machine.OnlyLogs c.reload.machine :=
    (((((Machine.OnlyLogs.refl _).logAll _).write _).note _).note _).log _
  exact ((hbegun.log _ _).trans htask).then_logs rfl hlogs

end Controller

end Regroup.Daemon
