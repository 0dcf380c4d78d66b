import Regroup.Proofs.Daemon.Policy
import Regroup.Proofs.Daemon.Stages
import Regroup.Proofs.WorkingDirectory

/-!
# Two controllers in step

Two machines mirror each other if they log to the same destination through the same filter, ask the
same kernel, and have the same files but for the directory that relative paths start from. A running
controller never asks where that is: the calls that it makes do not depend on it, and what its
pipeline makes of a batch does not either as long as the three bases of its paths are absolute. So
two controllers that differ in nothing else take every incident in step. Both add the same effects
to their journals, and both come to the same end.
-/

namespace Regroup.Daemon

open Connector (Delivery)
open Log (Record)
open Netlink (Subscription)

/-- The machines log to the same destination through the same filter, and their files mirror each
other. -/
structure Machine.Mirrors (bases : List String) (m m' : Machine) : Prop where
  kernel : m'.kernel = m.kernel
  filter : m'.filter = m.filter
  destination : m'.destination = m.destination
  tree : FileTree.Mirrors bases m.tree m'.tree

theorem Machine.Mirrors.trans {bases : List String} {m m' m'' : Machine} (h : m.Mirrors bases m')
    (h' : m'.Mirrors bases m'') : m.Mirrors bases m'' :=
  ⟨h'.kernel.trans h.kernel, h'.filter.trans h.filter, h'.destination.trans h.destination,
    h.tree.trans h'.tree⟩

/-- The machines have come to mirror each other from the given journals on by the same effects. -/
structure Machine.InStep (bases : List String) (before before' : List Effect) (m m' : Machine) :
    Prop extends Machine.Mirrors bases m m' where
  journal : ∃ effects, m.journal = before ++ effects ∧ m'.journal = before' ++ effects

namespace Machine

theorem filter_call (m : Machine) (c : SystemCall) : (m.call c).2.filter = m.filter := by
  unfold call afterSuccess
  dsimp only
  split
  · split <;> rfl
  · rfl

theorem destination_call (m : Machine) (c : SystemCall) :
    (m.call c).2.destination = m.destination := by
  unfold call afterSuccess
  dsimp only
  split
  · split <;> rfl
  · rfl

theorem tree_write (m : Machine) (text : String) :
    (m.write text).tree = loggedTree m.destination m.tree (Text.encode text) := by
  unfold write tree Log.Outlets.write loggedTree
  cases m.destination <;> rfl

/-- A call that stays where it is and opens nothing. -/
def IsPlain (c : SystemCall) : Prop :=
  c ≠ .enterRootDirectory ∧ c ≠ .openNullDevice

namespace InStep

variable {bases : List String} {before before' : List Effect} {m m' : Machine}

/-- From the journals as they are. -/
theorem begin (h : m.Mirrors bases m') : InStep bases m.journal m'.journal m m' :=
  ⟨h, [], (List.append_nil _).symm, (List.append_nil _).symm⟩

theorem note (h : InStep bases before before' m m') (effect : Effect) :
    InStep bases before before' (m.note effect) (m'.note effect) := by
  obtain ⟨effects, hjournal, hjournal'⟩ := h.journal
  refine ⟨⟨h.kernel, h.filter, h.destination, h.tree⟩, effects ++ [effect], ?_, ?_⟩
  · rw [← List.append_assoc, ← hjournal]
    rfl
  · rw [← List.append_assoc, ← hjournal']
    rfl

theorem write (h : InStep bases before before' m m') (text : String) :
    InStep bases before before' (m.write text) (m'.write text) := by
  refine ⟨⟨h.kernel, h.filter, h.destination, ?_⟩, h.journal⟩
  rw [tree_write, tree_write, h.destination]
  unfold loggedTree
  split
  · exact h.tree.append _ _
  · exact h.tree

theorem log (h : InStep bases before before' m m') (record : Record) :
    InStep bases before before' (m.log record) (m'.log record) := by
  have hnoted := h.note (.logged record)
  unfold Machine.log
  dsimp only
  rw [hnoted.filter]
  split
  · exact hnoted.write _
  · exact hnoted

theorem logAll (h : InStep bases before before' m m') (records : List Record) :
    InStep bases before before' (m.logAll records) (m'.logAll records) := by
  induction records generalizing m m' with
  | nil => exact h
  | cons record records ih => exact ih (h.log record)

theorem list (h : InStep bases before before' m m') (generation : Nat) (listing : String) :
    InStep bases before before' (m.list generation listing) (m'.list generation listing) :=
  (h.write listing).note _

theorem flush (h : InStep bases before before' m m') :
    InStep bases before before' m.flush m'.flush :=
  h.note _

theorem withTree (h : InStep bases before before' m m') {t u : FileTree}
    (htree : FileTree.Mirrors bases t u) :
    InStep bases before before' (m.withTree t) (m'.withTree u) :=
  ⟨⟨h.kernel, h.filter, h.destination, htree⟩, h.journal⟩

theorem fst_call (h : InStep bases before before' m m') (c : SystemCall) (hplain : IsPlain c) :
    (m'.call c).1 = (m.call c).1 := by
  rw [m.fst_call_of_ne c hplain.2, m'.fst_call_of_ne c hplain.2, h.kernel]

theorem call (h : InStep bases before before' m m') (c : SystemCall) (hplain : IsPlain c) :
    InStep bases before before' (m.call c).2 (m'.call c).2 := by
  have hnoted := h.note (.called c (m.call c).1)
  refine ⟨⟨?_, ?_, ?_, ?_⟩, ?_⟩
  · rw [m.kernel_call, m'.kernel_call, h.kernel]
  · rw [m.filter_call, m'.filter_call, h.filter]
  · rw [m.destination_call, m'.destination_call, h.destination]
  · rw [m.tree_call_of_ne c hplain.1, m'.tree_call_of_ne c hplain.1]
    exact h.tree
  · rw [m.journal_call, m'.journal_call, h.fst_call c hplain]
    exact hnoted.journal

end InStep

end Machine

namespace Connector

open Machine (InStep)

variable {bases : List String} {before before' : List Effect} {m m' : Machine}

theorem inStep_requestQueue (h : InStep bases before before' m m') (size : Nat) :
    InStep bases before before' (requestQueue size m) (requestQueue size m') := by
  have hasked := h.call (.setReceiveQueue size) ⟨nofun, nofun⟩
  have hfailure := h.fst_call (.setReceiveQueue size) ⟨nofun, nofun⟩
  unfold requestQueue
  revert hasked hfailure
  rcases m.call (.setReceiveQueue size) with ⟨failure, asked⟩
  rcases m'.call (.setReceiveQueue size) with ⟨failure', asked'⟩
  rintro hasked rfl
  cases failure' with
  | none => exact hasked
  | some code => exact hasked.log _

/-- Connectors that are opened in step leave machines in step. -/
theorem inStep_openFor (h : InStep bases before before' m m') (options : Config.ChannelOptions)
    (connector connector' : Connector) (opened opened' : Machine)
    (hopen : openFor options m = (.ok connector, opened))
    (hopen' : openFor options m' = (.ok connector', opened')) :
    InStep bases before before' opened opened' := by
  have hbound : InStep bases before before' (bound options m) (bound options m') := by
    have hcalled := (h.call .openSocket ⟨nofun, nofun⟩).call
      (.bindSocket m.kernel.processNumber) ⟨nofun, nofun⟩
    unfold bound
    rw [h.kernel]
    cases options.socketBuffer with
    | none => exact hcalled
    | some size => exact inStep_requestQueue hcalled size
  have hplain : Machine.IsPlain (.send (Subscription.listen.message m.kernel.processNumber)) :=
    ⟨nofun, nofun⟩
  rw [(eq_of_openFor _ _ _ _ hopen).2, (eq_of_openFor _ _ _ _ hopen').2, h.kernel, snd_subscribe,
    snd_subscribe]
  exact ((hbound.log _).call _ hplain).log _

theorem inStep_receive (h : InStep bases before before' m m') (connector : Connector)
    (delivery : Delivery) :
    (connector.receive delivery m').1 = (connector.receive delivery m).1 ∧
      (connector.receive delivery m').2.1 = (connector.receive delivery m).2.1 ∧
      InStep bases before before' (connector.receive delivery m).2.2
        (connector.receive delivery m').2.2 := by
  unfold receive
  cases connector.isOpen with
  | false => exact ⟨rfl, rfl, h⟩
  | true =>
    rw [if_pos rfl, if_pos rfl]
    cases Netlink.ReceiveOutcome.ofResult (delivery.result connector.bufferSize) with
    | batch length sender => exact ⟨rfl, rfl, h⟩
    | fatal cause => exact ⟨rfl, rfl, h⟩
    | retry reason =>
      cases reason with
      | wouldBlock => exact ⟨rfl, rfl, h⟩
      | bufferOverrun => exact ⟨rfl, rfl, h.log _⟩
      | interrupted => exact ⟨rfl, rfl, h.log _⟩
      | short length => exact ⟨rfl, rfl, h.log _⟩

theorem inStep_close (h : InStep bases before before' m m') (connector : Connector) :
    (connector.close m').1 = (connector.close m).1 ∧
      InStep bases before before' (connector.close m).2 (connector.close m').2 := by
  have hplain (message : Bytes) : Machine.IsPlain (.send message) := ⟨nofun, nofun⟩
  unfold close
  cases connector.isOpen with
  | false => exact ⟨rfl, h⟩
  | true =>
    have hsent := h.call (.send (Subscription.ignore.message connector.port)) (hplain _)
    have hfailure := h.fst_call (.send (Subscription.ignore.message connector.port)) (hplain _)
    rw [if_pos rfl, if_pos rfl]
    refine ⟨rfl, InStep.log ?_ _⟩
    revert hsent hfailure
    rcases m.call (.send (Subscription.ignore.message connector.port)) with ⟨failure, sent⟩
    rcases m'.call (.send (Subscription.ignore.message connector.port)) with
      ⟨failure', sent'⟩
    rintro hsent rfl
    cases failure' with
    | none => exact hsent
    | some code => exact hsent.log _

end Connector

/-! ## Controllers -/

namespace Controller

variable {σ : Type} {bases : List String} {alike : σ → σ → Prop}
variable {before before' : List Effect} {c c' : Controller σ}

/-- The controllers are in the same state, with files that mirror each other and classifiers that
are alike, and have come to it from the given journals on by the same effects. -/
structure InStep (bases : List String) (alike : σ → σ → Prop) (before before' : List Effect)
    (c c' : Controller σ) : Prop where
  machine : Machine.InStep bases before before' c.machine c'.machine
  pipeline : c.pipeline.Alike bases alike c'.pipeline
  connector : c'.connector = c.connector
  generation : c'.generation = c.generation
  phase : c'.phase = c.phase

namespace InStep

theorem log (h : InStep bases alike before before' c c') (level : Log.Level) (message : String) :
    InStep bases alike before before' (c.log level message) (c'.log level message) :=
  ⟨h.machine.log _, h.pipeline, h.connector, h.generation, h.phase⟩

theorem enter (h : InStep bases alike before before' c c') (phase : Phase) :
    InStep bases alike before before' (c.enter phase) (c'.enter phase) := by
  have hlogged := h.log .debug s!"Daemon {c.phase.name} -> {phase.name}"
  unfold Controller.enter
  rw [h.phase]
  exact ⟨hlogged.machine, hlogged.pipeline, hlogged.connector, hlogged.generation, rfl⟩

theorem announce (h : InStep bases alike before before' c c') :
    InStep bases alike before before' c.announce c'.announce := by
  have hentered := h.enter .reloading
  have hcounted : InStep bases alike before before'
      { c.enter .reloading with generation := c.generation + 1 }
      { c'.enter .reloading with generation := c.generation + 1 } :=
    ⟨hentered.machine, hentered.pipeline, hentered.connector, rfl, hentered.phase⟩
  unfold Controller.announce
  rw [h.generation]
  exact hcounted.log _ _

theorem finish (h : InStep bases alike before before' c c') :
    InStep bases alike before before' c.finish c'.finish := by
  obtain ⟨hconnector, hmachine⟩ := Connector.inStep_close h.machine c.connector
  have hclosed : InStep bases alike before before'
      { c with
        connector := (c.connector.close c.machine).1
        machine := (c.connector.close c.machine).2.flush }
      { c' with
        connector := (c.connector.close c'.machine).1
        machine := (c.connector.close c'.machine).2.flush } :=
    ⟨hmachine.flush, h.pipeline, hconnector, h.generation, h.phase⟩
  unfold Controller.finish
  rw [h.connector]
  exact hclosed.enter .stopped

theorem reported (h : InStep bases alike before before' c c') :
    InStep bases alike before before' c.reported c'.reported := by
  have hstopped := (h.enter .stopping).log .info "Stopped CGroup Rules Engine Daemon"
  unfold Controller.reported
  rw [h.pipeline.stats, h.generation, h.connector]
  split
  · exact (hstopped.log _ _).log _ _
  · exact hstopped.log _ _

theorem shutDown (h : InStep bases alike before before' c c') :
    InStep bases alike before before' c.shutDown c'.shutDown := by
  rw [shutDown_eq, shutDown_eq]
  exact h.reported.finish

variable [Classifier σ] (hσ : AnswersAlike bases alike)

include hσ

theorem handleBatch (h : InStep bases alike before before' c c') (batch : Bytes) :
    InStep bases alike before before' (c.handleBatch batch) (c'.handleBatch batch) := by
  obtain ⟨hpipeline, htree, hrecords⟩ :=
    Pipeline.alike_handleBatch hσ _ _ h.pipeline _ _ h.machine.tree batch
  unfold Controller.handleBatch
  dsimp only
  rw [hrecords]
  exact ⟨((h.machine.withTree htree).logAll _).note _, hpipeline, h.connector, h.generation,
    h.phase⟩

theorem reload (h : InStep bases alike before before' c c') :
    InStep bases alike before before' c.reload c'.reload := by
  have hannounced := h.announce
  have hreload := hσ.reload _ _ _ _ hannounced.pipeline.classifier hannounced.machine.tree
  have hpolicy : (reloadPolicy c'.announce.pipeline.classifier c'.announce.machine.tree
        (c.generation + 1)).2.2 =
      (reloadPolicy c.announce.pipeline.classifier c.announce.machine.tree
        (c.generation + 1)).2.2 := by
    unfold reloadPolicy
    dsimp only
    rw [hreload.result, hreload.records]
  have hlisting : Classifier.listing c'.reload.pipeline.classifier =
      Classifier.listing c.reload.pipeline.classifier := (hσ.listing _ _ hreload.state).symm
  refine ⟨?_, ⟨h.pipeline.base, h.pipeline.processRoot, h.pipeline.useCache, hreload.state,
    h.pipeline.stats⟩, h.connector, congrArg (· + 1) h.generation, rfl⟩
  rw [reload_machine, reload_machine, h.generation, hpolicy, hlisting]
  exact (((hannounced.machine.logAll _).list _ _).flush).log _

end InStep

/-- The passes of two controllers come to the same. -/
inductive Progress.InStep (bases : List String) (alike : σ → σ → Prop)
    (before before' : List Effect) : Progress σ → Progress σ → Prop where
  | waits (c c' : Controller σ) (h : c.InStep bases alike before before' c') :
    InStep bases alike before before' (.waits c) (.waits c')
  | ends (c c' : Controller σ) (result : Except ChannelError Unit)
    (h : c.InStep bases alike before before' c') :
    InStep bases alike before before' (.ends c result) (.ends c' result)

namespace InStep

variable [Classifier σ] (hσ : AnswersAlike bases alike)

include hσ

theorem handle (h : InStep bases alike before before' c c') (incident : Incident) :
    (c.handle incident).InStep bases alike before before' (c'.handle incident) := by
  cases incident with
  | fileChange location entry =>
    refine .waits _ _ ⟨h.machine.withTree (h.machine.tree.install location entry), h.pipeline,
      h.connector, h.generation, h.phase⟩
  | reload => exact .waits _ _ (h.reload hσ)
  | stop signal => exact .ends _ _ _ (h.log _ _)
  | delivery delivery =>
    obtain ⟨hreceived, hconnector, hmachine⟩ :=
      Connector.inStep_receive h.machine c.connector delivery
    simp only [Controller.handle]
    rw [h.connector]
    revert hreceived hconnector hmachine
    rcases c.connector.receive delivery c.machine with ⟨received, connector, m⟩
    rcases c.connector.receive delivery c'.machine with ⟨received', connector', m'⟩
    rintro rfl rfl hmachine
    have hreached : InStep bases alike before before'
        { c with connector := connector', machine := m }
        { c' with connector := connector', machine := m' } :=
      ⟨hmachine, h.pipeline, rfl, h.generation, h.phase⟩
    rcases received' with cause | _ | ⟨batch, sender⟩
    · exact .ends _ _ _ hreached
    · exact .waits _ _ hreached
    · dsimp only
      cases Netlink.isFromKernel sender with
      | true => exact .waits _ _ (hreached.handleBatch hσ batch)
      | false => exact .waits _ _ (hreached.log _ _)

theorem handleAll (h : InStep bases alike before before' c c') (incidents : List Incident) :
    (c'.handleAll incidents).1 = (c.handleAll incidents).1 ∧
      InStep bases alike before before' (c.handleAll incidents).2 (c'.handleAll incidents).2 := by
  induction incidents generalizing c c' with
  | nil => exact ⟨rfl, h.log _ _⟩
  | cons incident incidents ih =>
    have hstep := h.handle hσ incident
    simp only [Controller.handleAll]
    generalize c.handle incident = progress at hstep
    generalize c'.handle incident = progress' at hstep
    cases hstep with
    | waits c c' h => exact ih h
    | ends c c' result h => exact ⟨rfl, h⟩

/-- Controllers in step stay so, whatever comes. -/
theorem run (h : InStep bases alike before before' c c') (incidents : List Incident) :
    (c'.run incidents).1 = (c.run incidents).1 ∧
      InStep bases alike before before' (c.run incidents).2 (c'.run incidents).2 := by
  obtain ⟨hresult, hlast⟩ := (h.log .info "Started the CGroup Rules Engine Daemon.").handleAll hσ
    incidents
  exact ⟨hresult, hlast.shutDown⟩

end InStep

/-! ## Engines -/

theorem loads_cons (c : Controller Engine) (incident : Incident) (rest : List Incident) :
    c.loads (incident :: rest) =
      match c.handle incident with
      | .waits c' => (c.load? incident).toList ++ c'.loads rest
      | .ends _ _ => [] := by
  simp only [loads, takings]
  cases c.handle incident with
  | ends c' result => rfl
  | waits c' =>
    simp only [List.filterMap_cons]
    cases c.load? incident <;> rfl

namespace InStep

variable {c c' : Controller Engine}

theorem load?_eq (h : InStep bases (Engine.Alike bases) before before' c c')
    (incident : Incident) : c'.load? incident = c.load? incident := by
  obtain ⟨hengine, hleans⟩ := h.pipeline.classifier
  have hreading : c'.reading = c.reading := by
    rw [reading, reading, ← hengine,
      Engine.readRulesFile_eq h.announce.machine.tree c.pipeline.classifier hleans]
  cases incident with
  | reload => exact congrArg some hreading
  | delivery delivery | stop signal | fileChange location entry => rfl

theorem loads_eq (h : InStep bases (Engine.Alike bases) before before' c c')
    (incidents : List Incident) : c'.loads incidents = c.loads incidents := by
  induction incidents generalizing c c' with
  | nil => rfl
  | cons incident incidents ih =>
    have hstep := h.handle (Engine.answersAlike bases) incident
    rw [loads_cons, loads_cons, h.load?_eq]
    generalize c.handle incident = progress at hstep
    generalize c'.handle incident = progress' at hstep
    cases hstep with
    | waits c c' h => exact congrArg _ (ih h)
    | ends c c' result h => rfl

theorem watch (h : InStep bases (Engine.Alike bases) before before' c c') :
    InStep bases (Watched.Alike (Engine.Alike bases)) before before' c.watch c'.watch := by
  obtain ⟨hbase, hroot, hcache, hclassifier, hstats⟩ := h.pipeline
  exact ⟨h.machine, ⟨hbase, hroot, hcache, ⟨hclassifier, rfl⟩, hstats⟩, h.connector, h.generation,
    h.phase⟩

end InStep

/-- Two controllers make the same of the incidents: they send the same requests, read the same rules
at each reload, log the same, and leave the same files. -/
structure ServesAlike (c c' : Controller Engine) (incidents : List Incident) : Prop where
  result : (c'.run incidents).1 = (c.run incidents).1
  requests : (c'.watch.run incidents).2.pipeline.classifier.inquiries.map Inquiry.request =
    (c.watch.run incidents).2.pipeline.classifier.inquiries.map Inquiry.request
  loads : c'.started.loads incidents = c.started.loads incidents
  engine : (c'.run incidents).2.pipeline.classifier = (c.run incidents).2.pipeline.classifier
  stats : (c'.run incidents).2.pipeline.stats = (c.run incidents).2.pipeline.stats
  entries : (c'.run incidents).2.machine.tree.entries = (c.run incidents).2.machine.tree.entries
  effects : ∃ effects, (c.run incidents).2.machine.journal = c.machine.journal ++ effects ∧
    (c'.run incidents).2.machine.journal = c'.machine.journal ++ effects

theorem InStep.servesAlike {c c' : Controller Engine}
    (h : InStep bases (Engine.Alike bases) c.machine.journal c'.machine.journal c c')
    (incidents : List Incident) : c.ServesAlike c' incidents := by
  obtain ⟨hresult, hlast⟩ := h.run (Engine.answersAlike bases) incidents
  obtain ⟨-, hwatched⟩ := h.watch.run (Engine.answersAlike bases).watched incidents
  have hstarted : InStep bases (Engine.Alike bases) c.machine.journal c'.machine.journal c.started
      c'.started := h.log _ _
  constructor
  case result => exact hresult
  case requests => exact hwatched.pipeline.classifier.2.symm
  case loads => exact hstarted.loads_eq incidents
  case engine => exact hlast.pipeline.classifier.1.symm
  case stats => exact hlast.pipeline.stats
  case entries => exact hlast.machine.tree.entries.symm
  case effects => exact hlast.machine.journal

end Controller

end Regroup.Daemon
