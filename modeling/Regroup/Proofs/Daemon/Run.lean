import Mathlib.Control.Monad.Basic
import Regroup.Proofs.Daemon.Watched
import Regroup.Recorder

/-!
# Runs of the controller

What a run of the controller does is read off from the incidents: the first request to stop and the
first failure to receive that is not retried end it, and until then every incident gives its task in
turn. Failures that are retried, datagrams that are too short and batches of other senders give no
task, and nothing that comes after the end has any effect.
-/

namespace Regroup.Daemon

open Connector (Delivery)
open Netlink (FrameHeader ReceiveOutcome)

/-- The numbers of the failures after which receiving goes on. -/
def retriedCodes : List Int :=
  [Errno.noBufferSpace, Errno.interrupted, Errno.wouldBlock]

def IsRetried (cause : SystemError) : Prop :=
  ∃ code ∈ retriedCodes, cause.code? = some code

instance : DecidablePred IsRetried := fun cause ↦
  inferInstanceAs (Decidable (∃ code ∈ retriedCodes, cause.code? = some code))

namespace Incident

/-- How an incident ends the daemon, if it does. -/
def result? : Incident → Option (Except ChannelError Unit)
  | stop _ => some (.ok ())
  | delivery (.failure cause) =>
    if IsRetried cause then none else some (.error (.receive cause.recognized))
  | _ => none

/-- The task that an incident gives. A buffer of `bufferSize` bytes takes the front of a
datagram. -/
def task? (bufferSize : Nat) : Incident → Option Task
  | delivery (.datagram bytes sender) =>
    let received := bytes.take bufferSize
    if 16 ≤ received.length ∧ (sender = none ∨ sender = some 0) then some (.handle received)
    else none
  | delivery (.failure _) => none
  | reload => some .reload
  | stop _ => none
  | fileChange location entry => some (.change location entry)

def isOverrun : Incident → Bool
  | delivery (.failure cause) => cause.code? = some Errno.noBufferSpace
  | _ => false

end Incident

/-- A delivery that gives nothing to handle: a failure that is retried, a datagram without room for
a frame, or one that a process has sent. -/
inductive IsIdle (bufferSize : Nat) : Delivery → Prop where
  | retried (cause : SystemError) (h : IsRetried cause) : IsIdle bufferSize (.failure cause)
  | short (bytes : Bytes) (sender : Option UInt32) (h : (bytes.take bufferSize).length < 16) :
    IsIdle bufferSize (.datagram bytes sender)
  | foreign (bytes : Bytes) (port : UInt32) (h : port ≠ 0) :
    IsIdle bufferSize (.datagram bytes (some port))

theorem IsIdle.gives_nothing {bufferSize : Nat} {delivery : Delivery}
    (h : IsIdle bufferSize delivery) :
    (Incident.delivery delivery).result? = none ∧
      (Incident.delivery delivery).task? bufferSize = none := by
  cases h with
  | retried cause h => exact ⟨if_pos h, rfl⟩
  | short bytes sender h =>
    have hshort : ¬ 16 ≤ (bytes.take bufferSize).length := Nat.not_le.2 h
    exact ⟨rfl, if_neg fun hhandled ↦ hshort hhandled.1⟩
  | foreign bytes port h =>
    exact ⟨rfl, if_neg fun hhandled ↦ by simp [h] at hhandled⟩

theorem recognized_of_mem_retriedCodes (code : Int) (h : code ∈ retriedCodes) :
    Errno.recognized code = code := by
  simp only [retriedCodes, List.mem_cons, List.not_mem_nil, or_false] at h
  rcases h with rfl | rfl | rfl <;> decide

theorem recognized_notMem_retriedCodes (code : Int) (h : code ∉ retriedCodes) :
    Errno.recognized code ∉ retriedCodes := by
  unfold Errno.recognized
  split
  · exact h
  · decide

theorem ofFailure_noBufferSpace :
    ReceiveOutcome.ofFailure (.os Errno.noBufferSpace) = .retry .bufferOverrun := by
  decide

theorem ofFailure_interrupted :
    ReceiveOutcome.ofFailure (.os Errno.interrupted) = .retry .interrupted := by
  decide

theorem ofFailure_wouldBlock :
    ReceiveOutcome.ofFailure (.os Errno.wouldBlock) = .retry .wouldBlock := by
  decide

theorem ofFailure_of_not_retried (cause : SystemError) (h : ¬ IsRetried cause) :
    ReceiveOutcome.ofFailure cause.recognized = .fatal cause.recognized := by
  cases cause with
  | os code =>
    have hcode : code ∉ retriedCodes := fun hmem ↦ h ⟨code, hmem, rfl⟩
    have hrecognized := recognized_notMem_retriedCodes code hcode
    simp only [retriedCodes, List.mem_cons, List.not_mem_nil, or_false, not_or] at hrecognized
    simp only [ReceiveOutcome.ofFailure, SystemError.recognized, SystemError.code?,
      if_neg hrecognized.1, if_neg hrecognized.2.1, if_neg hrecognized.2.2]
  | nulInPath | notUtf8 | described text => rfl

theorem isFromKernel_iff (sender : Option UInt32) :
    Netlink.isFromKernel sender = true ↔ sender = none ∨ sender = some 0 := by
  cases sender <;> simp [Netlink.isFromKernel]

namespace Connector

variable (connector : Connector) (m : Machine)

theorem receive_of_closed (h : connector.isOpen = false) (delivery : Delivery) :
    connector.receive delivery m = (.error .closed, connector, m) :=
  if_neg (by simp [h])

theorem receive_of_not_retried (hopen : connector.isOpen = true) (cause : SystemError)
    (h : ¬ IsRetried cause) :
    connector.receive (.failure cause) m = (.error (.receive cause.recognized), connector, m) := by
  simp only [receive, hopen, if_true, Delivery.result, ReceiveOutcome.ofResult,
    ofFailure_of_not_retried cause h]

theorem receive_of_retried (hopen : connector.isOpen = true) (cause : SystemError)
    (h : IsRetried cause) :
    ∃ m', m.OnlyLogs m' ∧ connector.receive (.failure cause) m =
      (.ok none, { connector with
        overruns := connector.overruns +
          if cause.code? = some Errno.noBufferSpace then 1 else 0 }, m') := by
  obtain ⟨code, hmem, hcode⟩ := h
  obtain rfl : cause = .os code := by
    cases cause <;> cases hcode
    rfl
  have hrecognized := recognized_of_mem_retriedCodes code hmem
  rw [receive, if_pos hopen]
  simp only [Delivery.result, SystemError.recognized, hrecognized, ReceiveOutcome.ofResult]
  simp only [retriedCodes, List.mem_cons, List.not_mem_nil, or_false] at hmem
  rcases hmem with rfl | rfl | rfl
  · rw [ofFailure_noBufferSpace]
    exact ⟨_, (Machine.OnlyLogs.refl m).log _, rfl⟩
  · rw [ofFailure_interrupted]
    exact ⟨_, (Machine.OnlyLogs.refl m).log _, rfl⟩
  · rw [ofFailure_wouldBlock]
    exact ⟨m, .refl m, rfl⟩

theorem receive_of_short (hopen : connector.isOpen = true) (bytes : Bytes) (sender : Option UInt32)
    (h : (bytes.take connector.bufferSize).length < 16) :
    ∃ m', m.OnlyLogs m' ∧
      connector.receive (.datagram bytes sender) m = (.ok none, connector, m') := by
  have hshort : min bytes.length connector.bufferSize < FrameHeader.size := by
    rwa [List.length_take, Nat.min_comm] at h
  simp only [receive, hopen, if_true, Delivery.result, ReceiveOutcome.ofResult, if_pos hshort]
  exact ⟨_, (Machine.OnlyLogs.refl m).log _, rfl⟩

theorem receive_of_long (hopen : connector.isOpen = true) (bytes : Bytes) (sender : Option UInt32)
    (h : 16 ≤ (bytes.take connector.bufferSize).length) :
    connector.receive (.datagram bytes sender) m =
      (.ok (some (bytes.take connector.bufferSize, sender)), connector, m) := by
  have hlong : ¬ min bytes.length connector.bufferSize < FrameHeader.size := by
    rw [List.length_take, Nat.min_comm] at h
    exact Nat.not_lt.2 h
  simp only [receive, hopen, if_true, Delivery.result, ReceiveOutcome.ofResult, if_neg hlong,
    Delivery.bytes]
  rw [List.take_eq_take_min (i := connector.bufferSize), Nat.min_comm]

theorem close_of_closed (h : connector.isOpen = false) :
    connector.close m = (connector, m) :=
  if_neg (by simp [h])

theorem close_frame :
    (connector.close m).1.overruns = connector.overruns ∧ m.OnlyLogs (connector.close m).2 := by
  unfold close
  split
  · have hcall : m.OnlyLogs (m.call (.send
        (Netlink.Subscription.ignore.message connector.port))).2 := by
      unfold Machine.call
      dsimp only
      split <;> exact .of_eq rfl rfl
    refine ⟨rfl, ?_⟩
    rcases hsent : m.call (.send (Netlink.Subscription.ignore.message connector.port)) with
      ⟨_ | code, m'⟩
    · rw [hsent] at hcall
      exact hcall.log _
    · rw [hsent] at hcall
      exact (hcall.log _).log _
  · exact ⟨rfl, .refl m⟩

end Connector

namespace Controller

variable {σ : Type} [Classifier σ]

/-! ## Taking incidents -/

/-- The later controller has taken the incidents, none of which ended it. -/
structure Takes (c : Controller σ) (incidents : List Incident) (c' : Controller σ) : Prop where
  connector : c'.connector =
    { c.connector with
      overruns := c.connector.overruns + incidents.countP Incident.isOverrun }
  generation : c'.generation = c.generation + incidents.count .reload
  advances : c.Advances (incidents.filterMap (Incident.task? c.connector.bufferSize)) c'

variable {c c' c'' : Controller σ}

theorem Takes.refl (c : Controller σ) : c.Takes [] c :=
  ⟨rfl, rfl, .refl c⟩

theorem Takes.append {taken taken' : List Incident} (h : c.Takes taken c')
    (h' : c'.Takes taken' c'') : c.Takes (taken ++ taken') c'' := by
  have hadvances' := h'.advances
  rw [h.connector] at hadvances'
  refine ⟨?_, ?_, ?_⟩
  · rw [h'.connector, h.connector, List.countP_append]
    simp only [Nat.add_assoc]
  · rw [h'.generation, h.generation, List.count_append, Nat.add_assoc]
  · rw [List.filterMap_append]
    exact h.advances.trans hadvances'

theorem Takes.isOpen {taken : List Incident} (h : c.Takes taken c')
    (hopen : c.connector.isOpen = true) : c'.connector.isOpen = true := by
  rw [h.connector, hopen]

theorem handle_of_result?_eq_some (c : Controller σ) (hopen : c.connector.isOpen = true)
    (incident : Incident) (result : Except ChannelError Unit)
    (h : incident.result? = some result) :
    ∃ c', c.handle incident = .ends c' result ∧ c.Takes [] c' := by
  unfold Incident.result? at h
  split at h
  · obtain rfl := Option.some.inj h
    exact ⟨_, rfl, rfl, rfl, (Advances.refl c).log _ _⟩
  · rename_i cause
    split at h
    · cases h
    rename_i hfatal
    obtain rfl := Option.some.inj h
    refine ⟨c, ?_, .refl c⟩
    simp only [handle, c.connector.receive_of_not_retried c.machine hopen cause hfatal]
  · cases h

theorem handle_datagram (c : Controller σ) (hopen : c.connector.isOpen = true) (bytes : Bytes)
    (sender : Option UInt32) :
    ∃ c', c.handle (.delivery (.datagram bytes sender)) = .waits c' ∧
      c.Takes [.delivery (.datagram bytes sender)] c' := by
  by_cases hlong : 16 ≤ (bytes.take c.connector.bufferSize).length
  · have hreceive := c.connector.receive_of_long c.machine hopen bytes sender hlong
    by_cases hsender : sender = none ∨ sender = some 0
    · refine ⟨c.handleBatch (bytes.take c.connector.bufferSize), ?_, rfl, rfl, ?_⟩
      · simp only [handle, hreceive, if_pos ((isFromKernel_iff sender).2 hsender)]
      · simp only [List.filterMap_cons, Incident.task?, if_pos (And.intro hlong hsender),
          List.filterMap_nil]
        exact c.advances_handleBatch _
    · refine ⟨c.ignoreSender sender, ?_, rfl, rfl, ?_⟩
      · simp only [handle, hreceive, if_neg (mt (isFromKernel_iff sender).1 hsender)]
      · simp only [List.filterMap_cons, Incident.task?, hsender, and_false, if_false,
          List.filterMap_nil]
        exact (Advances.refl c).log _ _
  · obtain ⟨m, hlogs, hreceive⟩ := c.connector.receive_of_short c.machine hopen bytes sender
      (Nat.not_le.1 hlong)
    refine ⟨{ c with machine := m }, ?_, rfl, rfl, ?_⟩
    · simp only [handle, hreceive]
    · simp only [List.filterMap_cons, Incident.task?, hlong, false_and, if_false,
        List.filterMap_nil]
      exact .of_onlyLogs rfl hlogs

theorem handle_of_result?_eq_none (c : Controller σ) (hopen : c.connector.isOpen = true)
    (incident : Incident) (h : incident.result? = none) :
    ∃ c', c.handle incident = .waits c' ∧ c.Takes [incident] c' := by
  cases incident with
  | fileChange location entry => exact ⟨_, rfl, rfl, rfl, .of_task _ rfl rfl⟩
  | reload => exact ⟨c.reload, rfl, rfl, rfl, c.advances_reload⟩
  | stop signal => cases h
  | delivery delivery =>
    cases delivery with
    | datagram bytes sender => exact c.handle_datagram hopen bytes sender
    | failure cause =>
      have hretried : IsRetried cause :=
        Decidable.byContradiction fun hfatal ↦ by simp [Incident.result?, hfatal] at h
      obtain ⟨m, hlogs, hreceive⟩ :=
        c.connector.receive_of_retried c.machine hopen cause hretried
      let overruns := c.connector.overruns +
        if cause.code? = some Errno.noBufferSpace then 1 else 0
      refine ⟨{ c with connector := { c.connector with overruns }, machine := m }, ?_, ?_, rfl,
        .of_onlyLogs rfl hlogs⟩
      · simp only [handle, hreceive]
        rfl
      · simp [overruns, List.countP_cons, Incident.isOverrun]

/-- The incidents before the first that ends the daemon. -/
def taken (incidents : List Incident) : List Incident :=
  incidents.takeWhile fun incident ↦ incident.result?.isNone

theorem takes_handleAll (c : Controller σ) (hopen : c.connector.isOpen = true)
    (incidents : List Incident) : c.Takes (taken incidents) (c.handleAll incidents).2 := by
  induction incidents generalizing c with
  | nil => exact ⟨rfl, rfl, (Advances.refl c).log _ _⟩
  | cons incident incidents ih =>
    cases hresult : incident.result? with
    | some result =>
      obtain ⟨c', hhandle, htakes⟩ := c.handle_of_result?_eq_some hopen incident result hresult
      simpa [taken, handleAll, hhandle, hresult] using htakes
    | none =>
      obtain ⟨c', hhandle, htakes⟩ := c.handle_of_result?_eq_none hopen incident hresult
      have htaken := htakes.append (ih c' (htakes.isOpen hopen))
      simpa [taken, handleAll, hhandle, hresult] using htaken

theorem handleAll_result (c : Controller σ) (hopen : c.connector.isOpen = true)
    (incidents : List Incident) :
    some (c.handleAll incidents).1 =
      (incidents ++ [Incident.stop .terminate]).findSome? Incident.result? := by
  induction incidents generalizing c with
  | nil => rfl
  | cons incident incidents ih =>
    rw [List.cons_append, List.findSome?_cons]
    cases hresult : incident.result? with
    | some result =>
      obtain ⟨c', hhandle, -⟩ := c.handle_of_result?_eq_some hopen incident result hresult
      simp only [handleAll, hhandle]
    | none =>
      obtain ⟨c', hhandle, htakes⟩ := c.handle_of_result?_eq_none hopen incident hresult
      simp only [handleAll, hhandle]
      exact ih c' (htakes.isOpen hopen)

theorem handleAll_append_cons (c : Controller σ) (hopen : c.connector.isOpen = true)
    (incidents : List Incident) (ending : Incident) (later : List Incident)
    (hending : ending.result?.isSome) :
    c.handleAll (incidents ++ ending :: later) = c.handleAll (incidents ++ [ending]) := by
  induction incidents generalizing c with
  | nil =>
    obtain ⟨result, hresult⟩ := Option.isSome_iff_exists.1 hending
    obtain ⟨c', hhandle, -⟩ := c.handle_of_result?_eq_some hopen ending result hresult
    simp only [List.nil_append, handleAll, hhandle]
  | cons incident incidents ih =>
    simp only [List.cons_append, handleAll]
    cases hresult : incident.result? with
    | some result =>
      obtain ⟨c', hhandle, -⟩ := c.handle_of_result?_eq_some hopen incident result hresult
      simp only [hhandle]
    | none =>
      obtain ⟨c', hhandle, htakes⟩ := c.handle_of_result?_eq_none hopen incident hresult
      simp only [hhandle]
      exact ih c' (htakes.isOpen hopen)

/-! ## From start to end -/

/-- The last step of shutting down: the connector is closed and the log flushed. -/
def finish (c : Controller σ) : Controller σ :=
  let (connector, machine) := c.connector.close c.machine
  { c with connector, machine := machine.flush }.enter .stopped

theorem finish_frame (c : Controller σ) :
    c.finish.connector.overruns = c.connector.overruns ∧
      c.finish.generation = c.generation ∧ c.Advances [] c.finish := by
  obtain ⟨hoverruns, hlogs⟩ := c.connector.close_frame c.machine
  exact ⟨hoverruns, rfl, .of_onlyLogs rfl ((hlogs.note _).log _)⟩

theorem shutDown_eq_finish (c : Controller σ) :
    ∃ last : Controller σ, c.shutDown = last.finish ∧ last.connector = c.connector ∧
      last.generation = c.generation ∧ c.Advances [] last := by
  have hstopping := (Advances.refl c).enter .stopping
  unfold shutDown
  dsimp only
  split
  · refine ⟨_, rfl, ?_, ?_, ((hstopping.log _ _).log _ _).log _ _⟩
    · simp only [log_connector, enter_connector]
    · simp only [log_generation, enter_generation]
  · refine ⟨_, rfl, ?_, ?_, (hstopping.log _ _).log _ _⟩
    · simp only [log_connector, enter_connector]
    · simp only [log_generation, enter_generation]

theorem shutDown_frame (c : Controller σ) :
    c.shutDown.connector.overruns = c.connector.overruns ∧
      c.shutDown.generation = c.generation ∧ c.Advances [] c.shutDown := by
  obtain ⟨last, hshutDown, hconnector, hgeneration, hadvances⟩ := c.shutDown_eq_finish
  obtain ⟨hoverruns, hkept, hfinished⟩ := last.finish_frame
  rw [hshutDown, ← hconnector, ← hgeneration]
  exact ⟨hoverruns, hkept, hadvances.trans hfinished⟩

/-- Starting and shutting down add nothing to what is made of the incidents. -/
theorem run_takes (c : Controller σ) (hopen : c.connector.isOpen = true)
    (incidents : List Incident) :
    (c.run incidents).2.connector.overruns =
        c.connector.overruns + (taken incidents).countP Incident.isOverrun ∧
      (c.run incidents).2.generation = c.generation + (taken incidents).count .reload ∧
      c.Advances ((taken incidents).filterMap (Incident.task? c.connector.bufferSize))
        (c.run incidents).2 := by
  let started := c.log .info "Started the CGroup Rules Engine Daemon."
  have hstarted : c.Advances [] started := (Advances.refl c).log _ _
  have htakes := started.takes_handleAll hopen incidents
  obtain ⟨hoverruns, hgeneration, hadvances⟩ := (started.handleAll incidents).2.shutDown_frame
  refine ⟨?_, ?_, ?_⟩
  · rw [htakes.connector] at hoverruns
    exact hoverruns
  · rw [htakes.generation] at hgeneration
    exact hgeneration
  · have htasks := (hstarted.trans htakes.advances).trans hadvances
    rwa [List.append_nil] at htasks

theorem handle_of_isIdle (c : Controller σ) (hopen : c.connector.isOpen = true)
    (delivery : Delivery) (h : IsIdle c.connector.bufferSize delivery) :
    ∃ c', c.handle (.delivery delivery) = .waits c' ∧ c'.pipeline = c.pipeline := by
  obtain ⟨hresult, htask⟩ := h.gives_nothing
  obtain ⟨c', hhandle, htakes⟩ := c.handle_of_result?_eq_none hopen _ hresult
  obtain ⟨steps, htasks, hsite⟩ := htakes.advances.site
  rw [List.filterMap_cons_none htask, List.filterMap_nil] at htasks
  refine ⟨c', hhandle, ?_⟩
  calc
    c'.pipeline = (steps.foldl (Site.take c.machine.destination) c.site).pipeline :=
      congrArg Site.pipeline hsite
    _ = c.pipeline := Site.foldl_take_pipeline c.machine.destination steps c.site htasks

/-- A run is a fold over the incidents before the one that ends it. The log may be written to
between the tasks, which shows among the files where the log goes to one of them. -/
structure RefinesFold (c : Controller σ) (incidents : List Incident) : Prop where
  result : some (c.run incidents).1 =
    (incidents ++ [Incident.stop .terminate]).findSome? Incident.result?
  nothingLater : ∀ ending later, ending.result?.isSome →
    c.run (incidents ++ ending :: later) = c.run (incidents ++ [ending])
  idle : ∀ delivery, IsIdle c.connector.bufferSize delivery →
    ∃ c', c.handle (.delivery delivery) = .waits c' ∧ c'.pipeline = c.pipeline
  overruns : (c.run incidents).2.connector.overruns =
    c.connector.overruns + (taken incidents).countP Incident.isOverrun
  generation : (c.run incidents).2.generation = c.generation + (taken incidents).count .reload
  watched : (c.watch.run incidents).2.unwatch = (c.run incidents).2
  folded : ∃ steps : List Step,
    steps.filterMap Step.task? =
      (taken incidents).filterMap (Incident.task? c.connector.bufferSize) ∧
    (c.run incidents).2.site = steps.foldl (Site.take c.machine.destination) c.site ∧
    (c.watch.run incidents).2.site = steps.foldl (Site.take c.machine.destination) c.watch.site
  unlogged : (∀ location, c.machine.destination ≠ .file location) →
    (c.run incidents).2.site =
      ((taken incidents).filterMap (Incident.task? c.connector.bufferSize)).foldl
        Site.perform c.site ∧
    (c.watch.run incidents).2.site =
      ((taken incidents).filterMap (Incident.task? c.connector.bufferSize)).foldl
        Site.perform c.watch.site

/-- Whatever incidents come, and whatever the classifier, the controller does what a fold over the
batches of the kernel and the requests to reload does, and it ends with the first request to stop or
the first failure that is not retried. -/
theorem run_refines_fold (c : Controller σ) (hopen : c.connector.isOpen = true)
    (incidents : List Incident) : c.RefinesFold incidents := by
  let started := c.log .info "Started the CGroup Rules Engine Daemon."
  have hstarted : started.connector.isOpen = true := hopen
  obtain ⟨hoverruns, hgeneration, -⟩ := c.run_takes hopen incidents
  have hunwatch : c.run incidents =
      ((c.watch.run incidents).1, (c.watch.run incidents).2.unwatch) :=
    c.watch.run_unwatch incidents
  obtain ⟨steps, htasks, hsite⟩ := (c.watch.run_takes hopen incidents).2.2.site
  change steps.filterMap Step.task? =
    (taken incidents).filterMap (Incident.task? c.connector.bufferSize) at htasks
  have hsite' : (c.run incidents).2.site =
      steps.foldl (Site.take c.machine.destination) c.site :=
    calc
      (c.run incidents).2.site = (c.watch.run incidents).2.site.unwatch := by
        rw [hunwatch]
        rfl
      _ = (steps.foldl (Site.take c.machine.destination) c.watch.site).unwatch :=
        congrArg Site.unwatch hsite
      _ = steps.foldl (Site.take c.machine.destination) c.site :=
        (Site.foldl_take_unwatch c.machine.destination steps c.watch.site).symm
  constructor
  case result => exact started.handleAll_result hstarted incidents
  case nothingLater =>
    intro ending later hending
    have hlater := started.handleAll_append_cons hstarted incidents ending later hending
    exact congrArg (fun ended ↦ (ended.1, ended.2.shutDown)) hlater
  case idle => exact c.handle_of_isIdle hopen
  case overruns => exact hoverruns
  case generation => exact hgeneration
  case watched => rw [hunwatch]
  case folded => exact ⟨steps, htasks, hsite', hsite⟩
  case unlogged =>
    intro hdestination
    have hfold := fun {τ : Type} [Classifier τ] (site : Site τ) ↦
      Site.foldl_take_of_not_file c.machine.destination hdestination steps site
    rw [← htasks]
    exact ⟨hsite'.trans (hfold _), hsite.trans (hfold _)⟩

/-- An overrun, a short datagram, a reload, a datagram of a process, a batch of the kernel and a
failure, and a reload that comes too late. -/
theorem run_refines_fold_to_failure :
    let c : Controller Recorder := {
      machine := {
        kernel := { processNumber := 1, effectiveUser := 0 }
        outlets := { tree := .empty [] }
        filter := .ofLevel .info }
      pipeline := { processRoot := "/proc", useCache := true, classifier := ⟨none, [], 0⟩ }
      connector := { port := 1, bufferSize := 64 } }
    let incidents : List Incident := [.delivery (.failure (.os 105)),
      .delivery (.datagram [0, 0] none), .reload,
      .delivery (.datagram (List.replicate 16 0) (some 7)),
      .delivery (.datagram (List.replicate 16 0) (some 0)),
      .delivery (.failure (.os 9)), .reload]
    c.connector.isOpen = true ∧
      (c.run incidents).1 = .error (.receive (.os 9)) ∧
      (c.run incidents).2.connector.overruns = 1 ∧
      (c.run incidents).2.pipeline.stats.batches = 1 ∧
      (c.run incidents).2.pipeline.classifier.reloads = 1 := by
  intro c incidents
  have h := c.run_refines_fold rfl incidents
  have hsite := (h.unlogged fun _ hfile ↦ nomatch hfile).1
  have hbatches := congrArg (fun site ↦ site.pipeline.stats.batches) hsite
  have hreloads := congrArg (fun site ↦ site.pipeline.classifier.reloads) hsite
  refine ⟨rfl, ?_, ?_, ?_, ?_⟩
  · exact Option.some.inj (h.result.trans (by decide))
  · exact h.overruns.trans (by decide)
  · exact hbatches.trans (by decide +kernel)
  · exact hreloads.trans (by decide +kernel)

end Controller

end Regroup.Daemon
