import Regroup.Proofs.Daemon.Journal

/-!
# What an incident comes to

There are five things that an incident can come to: a batch is handled, the rules are read again,
someone else changes a file, the controller only logs and waits on, or it only logs and ends. All
that is said about a run goes through these five, and `takings` lists the incidents of a run with
the controllers that they meet.
-/

namespace Regroup.Daemon

open Connector (Delivery)
open Log (FromOthers Record)

namespace Connector

variable (connector : Connector)

theorem fromOthers_channel (level : Log.Level) (message : String) :
    FromOthers [channelRecord level message] := by
  simp [channelRecord]

/-- Receiving only logs. -/
theorem snd_receive (delivery : Delivery) (m : Machine) :
    ∃ records, FromOthers records ∧ (connector.receive delivery m).2.2 = m.logAll records := by
  unfold receive
  split
  · split
    · exact ⟨[], Log.fromOthers_nil, rfl⟩
    · exact ⟨_, fromOthers_channel _ _, rfl⟩
    · exact ⟨[], Log.fromOthers_nil, rfl⟩
    · exact ⟨_, fromOthers_channel _ _, rfl⟩
    · exact ⟨[], Log.fromOthers_nil, rfl⟩
  · exact ⟨[], Log.fromOthers_nil, rfl⟩

/-- Closing an open connector sends the ignore message, and besides that only logs. -/
theorem snd_close (m : Machine) (hopen : connector.isOpen = true) :
    ∃ records, FromOthers records ∧ (connector.close m).2 = (m.call (.send
      (Netlink.Subscription.ignore.message connector.port))).2.logAll records := by
  unfold close
  rw [if_pos hopen]
  rcases m.call (.send (Netlink.Subscription.ignore.message connector.port)) with
    ⟨_ | code, m'⟩
  · exact ⟨_, fromOthers_channel _ _, rfl⟩
  · exact ⟨_, (Log.fromOthers_append _ _).2 ⟨fromOthers_channel _ _, fromOthers_channel _ _⟩, rfl⟩

theorem tells_receive (delivery : Delivery) (m : Machine) :
    m.Tells [] [] [] (connector.receive delivery m).2.2 := by
  obtain ⟨records, hrecords, hreceive⟩ := connector.snd_receive delivery m
  rw [hreceive]
  exact (Machine.Tells.refl m).logAll records (isQuiet_of_fromOthers records hrecords)

theorem tells_close (m : Machine) : m.Tells [] [] [] (connector.close m).2 := by
  cases hopen : connector.isOpen with
  | false =>
    rw [connector.close_of_closed m hopen]
    exact .refl m
  | true =>
    obtain ⟨records, hrecords, hclose⟩ := connector.snd_close m hopen
    rw [hclose]
    exact ((Machine.Tells.refl m).call _ fun _ ↦ rfl).logAll records
      (isQuiet_of_fromOthers records hrecords)

end Connector

namespace Controller

variable {σ : Type} [Classifier σ]

section
variable (c : Controller σ) (level : Log.Level) (message : String) (phase : Phase)

omit [Classifier σ]

@[simp]
theorem log_pipeline : (c.log level message).pipeline = c.pipeline := rfl

@[simp]
theorem log_phase : (c.log level message).phase = c.phase := rfl

@[simp]
theorem enter_pipeline : (c.enter phase).pipeline = c.pipeline := rfl

@[simp]
theorem enter_phase : (c.enter phase).phase = phase := rfl

end

/-! ## One incident -/

/-- The later controller has logged, and has counted overruns perhaps. -/
structure Idles (c c' : Controller σ) : Prop where
  pipeline : c'.pipeline = c.pipeline
  generation : c'.generation = c.generation
  phase : c'.phase = c.phase
  isOpen : c'.connector.isOpen = c.connector.isOpen
  bufferSize : c'.connector.bufferSize = c.connector.bufferSize
  tells : c.machine.Tells [] [] [] c'.machine

/-- The five things. The controllers are told by equations, as a case distinction would otherwise
unfold what they do. -/
inductive Turn (c : Controller σ) : Incident → Progress σ → Prop where
  | batch (incident : Incident) (c' : Controller σ) (batch : Bytes)
    (htask : incident.task? c.connector.bufferSize = some (.handle batch))
    (hreached : c' = c.handleBatch batch) : Turn c incident (.waits c')
  | reload (c' : Controller σ) (hreached : c' = c.reload) : Turn c .reload (.waits c')
  | change (location : Location) (entry : Entry) (c' : Controller σ)
    (hreached : c' =
      { c with machine := c.machine.withTree (c.machine.tree.install location entry) }) :
    Turn c (.fileChange location entry) (.waits c')
  | idle (incident : Incident) (c' : Controller σ) (hresult : incident.result? = none)
    (htask : incident.task? c.connector.bufferSize = none) (hidles : c.Idles c') :
    Turn c incident (.waits c')
  | ending (incident : Incident) (c' : Controller σ) (result : Except ChannelError Unit)
    (hresult : incident.result? = some result) (hidles : c.Idles c') :
    Turn c incident (.ends c' result)

omit [Classifier σ] in
theorem idles_log (c : Controller σ) (level : Log.Level) (message : String)
    (h : IsQuiet (controllerRecord level message)) : c.Idles (c.log level message) :=
  ⟨rfl, rfl, rfl, rfl, rfl, (Machine.Tells.refl _).log _ h⟩

theorem isQuiet_received (signal : StopSignal) :
    IsQuiet (controllerRecord .debug s!"{signal.name} received") := by
  cases signal <;> exact isQuiet_of_head _ (by decide +kernel)

theorem isQuiet_ignoring (shown : String) :
    IsQuiet (controllerRecord .debug s!"Ignoring message from netlink port {shown}") := by
  apply isQuiet_of_head
  simp only [controllerRecord, String.toList_append, List.head?_append]
  exact fun h ↦ absurd (Option.some.inj h) (by decide)

theorem turn_datagram (c : Controller σ) (hopen : c.connector.isOpen = true) (bytes : Bytes)
    (sender : Option UInt32) :
    c.Turn (.delivery (.datagram bytes sender))
      (c.handle (.delivery (.datagram bytes sender))) := by
  by_cases hlong : 16 ≤ (bytes.take c.connector.bufferSize).length
  · have hreceive := c.connector.receive_of_long c.machine hopen bytes sender hlong
    simp only [handle, hreceive]
    by_cases hsender : sender = none ∨ sender = some 0
    · rw [if_pos ((isFromKernel_iff sender).2 hsender)]
      exact .batch _ _ _ (if_pos ⟨hlong, hsender⟩) rfl
    · rw [if_neg (mt (isFromKernel_iff sender).1 hsender)]
      exact .idle _ _ rfl (if_neg fun htask ↦ hsender htask.2)
        (c.idles_log _ _ (isQuiet_ignoring _))
  · obtain ⟨m, -, hreceive⟩ := c.connector.receive_of_short c.machine hopen bytes sender
      (Nat.not_le.1 hlong)
    have htells := c.connector.tells_receive (.datagram bytes sender) c.machine
    rw [hreceive] at htells
    simp only [handle, hreceive]
    exact .idle _ _ rfl (if_neg fun htask ↦ hlong htask.1) ⟨rfl, rfl, rfl, rfl, rfl, htells⟩

theorem turn_failure (c : Controller σ) (hopen : c.connector.isOpen = true)
    (cause : SystemError) :
    c.Turn (.delivery (.failure cause)) (c.handle (.delivery (.failure cause))) := by
  have htells := c.connector.tells_receive (.failure cause) c.machine
  by_cases hretried : IsRetried cause
  · obtain ⟨m, -, hreceive⟩ := c.connector.receive_of_retried c.machine hopen cause hretried
    rw [hreceive] at htells
    simp only [handle, hreceive]
    exact .idle _ _ (if_pos hretried) rfl ⟨rfl, rfl, rfl, rfl, rfl, htells⟩
  · simp only [handle, c.connector.receive_of_not_retried c.machine hopen cause hretried]
    exact .ending _ _ _ (if_neg hretried) ⟨rfl, rfl, rfl, rfl, rfl, .refl _⟩

theorem turn_handle (c : Controller σ) (hopen : c.connector.isOpen = true) (incident : Incident) :
    c.Turn incident (c.handle incident) := by
  cases incident with
  | fileChange location entry => exact .change location entry _ rfl
  | reload => exact .reload _ rfl
  | stop signal => exact .ending _ _ _ rfl (c.idles_log _ _ (isQuiet_received signal))
  | delivery delivery =>
    cases delivery with
    | datagram bytes sender => exact c.turn_datagram hopen bytes sender
    | failure cause => exact c.turn_failure hopen cause

section
variable {m : Machine} {trees : List FileTree} {listings : List (Nat × String)}
variable {changes : List (Phase × Phase)}
variable (c : Controller σ) (h : m.Tells trees listings changes c.machine)

omit [Classifier σ]

include h

theorem tells_info (message : String) :
    m.Tells trees listings changes (c.log .info message).machine :=
  h.log _ (isQuiet_of_level _ (by simp [controllerRecord]))

theorem tells_enter (phase : Phase) :
    m.Tells trees listings (changes ++ [(c.phase, phase)]) (c.enter phase).machine :=
  h.change c.phase phase

end

/-- The controller with a reload announced. -/
def announce (c : Controller σ) : Controller σ :=
  { c.enter .reloading with generation := c.generation + 1 }.log .info
    s!"Reloading rules configuration (generation {c.generation + 1})."

theorem tells_handleBatch (hσ : LogsApart σ) (c : Controller σ) (batch : Bytes) :
    c.machine.Tells [(c.pipeline.handleBatch c.machine.tree batch).tree] [] []
      (c.handleBatch batch).machine :=
  (((Machine.Tells.refl _).withTree _).logAll _ (isQuiet_of_fromOthers _
    (c.pipeline.fromOthers_handleBatch hσ c.machine.tree batch))).note (.handled batch) rfl rfl rfl

omit [Classifier σ] in
theorem tells_announce (c : Controller σ) :
    c.machine.Tells [] [] [(c.phase, .reloading)] c.announce.machine :=
  tells_info { c.enter .reloading with generation := c.generation + 1 }
    (c.tells_enter (.refl _) .reloading) _

theorem isQuiet_reloadPolicy (hσ : LogsApart σ) (classifier : σ) (tree : FileTree)
    (generation : Nat) :
    ∀ record ∈ (reloadPolicy classifier tree generation).2.2, IsQuiet record := by
  refine List.forall_mem_append.2 ⟨isQuiet_of_fromOthers _ (hσ.reload classifier tree), ?_⟩
  cases (Classifier.reload classifier tree).result with
  | ok loaded => exact List.forall_mem_nil _
  | error cause => exact List.forall_mem_singleton.2 (isQuiet_of_level _ (by simp))

section
variable (c : Controller σ)

@[simp]
theorem reload_connector : c.reload.connector = c.connector := rfl

@[simp]
theorem reload_generation : c.reload.generation = c.generation + 1 := rfl

@[simp]
theorem reload_phase : c.reload.phase = .running := rfl

@[simp]
theorem reload_useCache : c.reload.pipeline.useCache = c.pipeline.useCache := rfl

/-- The rules are read after the reload has been announced. -/
theorem reload_classifier : c.reload.pipeline.classifier =
    (Classifier.reload c.pipeline.classifier c.announce.machine.tree).state := rfl

end

/-- Once announced, a reload is logged and listed under its generation. -/
theorem reload_machine (c : Controller σ) :
    c.reload.machine =
      ((c.announce.machine.logAll
        (reloadPolicy c.announce.pipeline.classifier c.announce.machine.tree
          (c.generation + 1)).2.2).list (c.generation + 1)
        (listingText (c.generation + 1)
          (Classifier.listing c.reload.pipeline.classifier))).flush.log
        (Phase.changeRecord .reloading .running) := rfl

theorem tells_reload (hσ : LogsApart σ) (c : Controller σ) :
    c.machine.Tells []
      [(c.generation + 1,
        listingText (c.generation + 1) (Classifier.listing c.reload.pipeline.classifier))]
      [(c.phase, .reloading), (.reloading, .running)] c.reload.machine := by
  have hpolicy := isQuiet_reloadPolicy hσ c.announce.pipeline.classifier c.announce.machine.tree
    (c.generation + 1)
  rw [reload_machine]
  exact (((c.tells_announce.logAll _ hpolicy).list _ _).flush).change .reloading .running

omit [Classifier σ] in
theorem tells_finish (c : Controller σ) :
    c.machine.Tells [] [] [(c.phase, .stopped)] c.finish.machine :=
  (c.connector.tells_close c.machine).flush.change c.phase .stopped

omit [Classifier σ] in
theorem tells_shutDown (c : Controller σ) :
    c.machine.Tells [] [] [(c.phase, .stopping), (.stopping, .stopped)] c.shutDown.machine ∧
      c.shutDown.pipeline = c.pipeline := by
  have hstopping := (c.tells_enter (.refl c.machine) .stopping)
  have hstopped := tells_info _ (tells_info _ hstopping "Stopped CGroup Rules Engine Daemon")
    s!"Processed {c.pipeline.stats.text} with {c.generation} rule reloads"
  -- the overruns are only logged where there have been any, and `finish` follows either way
  have hlast : ∃ last : Controller σ, c.shutDown = last.finish ∧ last.phase = .stopping ∧
      last.pipeline = c.pipeline ∧ c.machine.Tells [] [] [(c.phase, .stopping)] last.machine := by
    unfold shutDown
    dsimp only
    split
    · refine ⟨_, rfl, ?_, ?_, tells_info _ hstopped _⟩
      · simp only [log_phase, enter_phase]
      · simp only [log_pipeline, enter_pipeline]
    · refine ⟨_, rfl, ?_, ?_, hstopped⟩
      · simp only [log_phase, enter_phase]
      · simp only [log_pipeline, enter_pipeline]
  obtain ⟨last, hshutDown, hphase, hpipeline, htells⟩ := hlast
  have hfinish := last.tells_finish
  rw [hphase] at hfinish
  rw [hshutDown]
  exact ⟨htells.trans hfinish, hpipeline⟩

/-! ## The incidents of a run -/

/-- The incidents that do not end the controller, each with the controller that it meets. -/
def takings (c : Controller σ) : List Incident → List (Controller σ × Incident)
  | [] => []
  | incident :: rest =>
    match c.handle incident with
    | .waits c' => (c, incident) :: c'.takings rest
    | .ends _ _ => []

/-- What the classifier is asked in the course of an incident. -/
def asks (c : Controller σ) (incident : Incident) : List (Inquiry σ) :=
  match incident.task? c.connector.bufferSize with
  | some (.handle batch) => c.pipeline.inquiries c.machine.tree batch
  | _ => []

/-- The files as an incident leaves them, where it changes any besides the log. -/
def alteration? (c : Controller σ) (incident : Incident) : Option FileTree :=
  match incident.task? c.connector.bufferSize with
  | some (.handle batch) => some (c.pipeline.handleBatch c.machine.tree batch).tree
  | some (.change location entry) => some (c.machine.tree.install location entry)
  | some .reload | none => none

theorem incidents_takings (c : Controller σ) (hopen : c.connector.isOpen = true)
    (incidents : List Incident) : (c.takings incidents).map Prod.snd = taken incidents := by
  induction incidents generalizing c with
  | nil => rfl
  | cons incident incidents ih =>
    cases hresult : incident.result? with
    | some result =>
      obtain ⟨c', hhandle, -⟩ := c.handle_of_result?_eq_some hopen incident result hresult
      simp [takings, taken, hhandle, hresult]
    | none =>
      obtain ⟨c', hhandle, htakes⟩ := c.handle_of_result?_eq_none hopen incident hresult
      have hrest := ih c' (htakes.isOpen hopen)
      simpa [takings, taken, hhandle, hresult] using hrest

theorem inquiries_handle (c c' : Controller (Watched σ)) (hopen : c.connector.isOpen = true)
    (incident : Incident) (h : c.handle incident = .waits c') :
    c'.pipeline.classifier.inquiries =
      c.pipeline.classifier.inquiries ++ c.unwatch.asks incident := by
  have hturn := c.turn_handle hopen incident
  rw [h] at hturn
  cases hturn with
  | batch incident c' batch htask hreached =>
    have hasks : c.unwatch.asks incident =
        c.pipeline.unwatch.inquiries c.machine.tree batch := by
      simp only [asks, unwatch, htask]
    rw [hasks, hreached]
    exact c.pipeline.inquiries_handleBatch c.machine.tree batch
  | reload c' hreached =>
    rw [hreached]
    exact (List.append_nil _).symm
  | change location entry c' hreached =>
    rw [hreached]
    exact (List.append_nil _).symm
  | idle incident c' hresult htask hidles =>
    have hasks : c.unwatch.asks incident = [] := by
      simp only [asks, unwatch, htask]
    rw [hasks, List.append_nil, hidles.pipeline]

theorem inquiries_handleAll (c : Controller (Watched σ)) (hopen : c.connector.isOpen = true)
    (incidents : List Incident) :
    (c.handleAll incidents).2.pipeline.classifier.inquiries =
      c.pipeline.classifier.inquiries ++
        (c.unwatch.takings incidents).flatMap fun taking ↦ taking.1.asks taking.2 := by
  induction incidents generalizing c with
  | nil => exact (List.append_nil _).symm
  | cons incident incidents ih =>
    have hunwatch := c.handle_unwatch incident
    cases hresult : incident.result? with
    | some result =>
      obtain ⟨c', hhandle, htakes⟩ := c.handle_of_result?_eq_some hopen incident result hresult
      have hturn := c.turn_handle hopen incident
      rw [hhandle] at hunwatch hturn
      cases hturn with
      | ending incident c' result hresult hidles =>
        simp only [handleAll, takings, hhandle, hunwatch, Progress.unwatch, List.flatMap_nil,
          List.append_nil, hidles.pipeline]
    | none =>
      obtain ⟨c', hhandle, htakes⟩ := c.handle_of_result?_eq_none hopen incident hresult
      have hasked := c.inquiries_handle c' hopen incident hhandle
      rw [hhandle] at hunwatch
      simp only [handleAll, takings, hhandle, hunwatch, Progress.unwatch, List.flatMap_cons]
      rw [ih c' (htakes.isOpen hopen), hasked, List.append_assoc]

/-- The controller that takes the first incident. -/
def started (c : Controller σ) : Controller σ :=
  c.log .info "Started the CGroup Rules Engine Daemon."

/-- Watching a run shows what the classifier is asked in the course of its incidents. -/
theorem inquiries_run (c : Controller σ) (hopen : c.connector.isOpen = true)
    (incidents : List Incident) :
    (c.watch.run incidents).2.pipeline.classifier.inquiries =
      (c.started.takings incidents).flatMap fun taking ↦ taking.1.asks taking.2 := by
  have hpipeline := (c.watch.started.handleAll incidents).2.tells_shutDown.2
  calc
    (c.watch.run incidents).2.pipeline.classifier.inquiries =
        (c.watch.started.handleAll incidents).2.pipeline.classifier.inquiries := by
      exact congrArg (fun pipeline ↦ pipeline.classifier.inquiries) hpipeline
    _ = [] ++ (c.started.takings incidents).flatMap fun taking ↦ taking.1.asks taking.2 :=
      c.watch.started.inquiries_handleAll hopen incidents
    _ = (c.started.takings incidents).flatMap fun taking ↦ taking.1.asks taking.2 :=
      List.nil_append _

end Controller

end Regroup.Daemon
