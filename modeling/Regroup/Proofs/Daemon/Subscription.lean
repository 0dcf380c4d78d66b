import Regroup.Proofs.Daemon.Milestones

/-!
# One subscription, ended once

A connector that is opened has sent one listen message, and over the rest of its life it attempts to
send one ignore message of the same number: when it is first closed, or when it is dropped, whatever
becomes of the message. Once closed it answers every use without a look at the socket. A connector
that cannot be opened never sends an ignore message, so there is nothing to be closed.

The daemon leaves its connector closed. All milestones of its run are told here: it flushes the
listing of its rules and subscribes, handles batches and flushes what reloads list, and in the end
attempts to unsubscribe, and then flushes its log.
-/

namespace Regroup.Daemon

open CommandLine (Options)
open Config (Settings)
open Connector (Delivery)
open Netlink (Subscription)

/-- The attempt to end the subscription of a number. -/
def Kernel.farewell (kernel : Kernel) (port : UInt32) : Milestone :=
  let message := Subscription.ignore.message port
  .sent message (kernel.failure (.send message))

namespace Connector

section
variable (connector : Connector) (m : Machine)

theorem passes_requestQueue (size : Nat) : m.Passes [] (requestQueue size m) := by
  obtain ⟨records, -, hrequest⟩ := requestQueue_eq size m
  rw [hrequest]
  exact ((Machine.Passes.refl m).call (.setReceiveQueue size)).logAll records

theorem passes_subscribe (port : UInt32) :
    ∃ failure, m.Passes [.sent (Subscription.listen.message port) failure] (subscribe port m).2 ∧
      ∀ subscribed, (subscribe port m).1 = .ok subscribed → failure = none := by
  refine ⟨m.kernel.failure (.send (Subscription.listen.message port)), ?_,
    fun subscribed hsubscribed ↦ ?_⟩
  · rw [snd_subscribe]
    exact ((Machine.Passes.refl m).log _).send _
  · unfold subscribe at hsubscribed
    dsimp only at hsubscribed
    split at hsubscribed
    · cases hsubscribed
    · rename_i hnone
      rwa [Machine.fst_call_of_ne _ _ (by simp), Machine.kernel_log] at hnone

theorem passes_bound (options : Config.ChannelOptions) : m.Passes [] (bound options m) := by
  have hsocket : m.Passes [] (m.call .openSocket).2 := (Machine.Passes.refl m).call .openSocket
  have hbound := hsocket.call (.bindSocket m.kernel.processNumber)
  unfold bound
  cases options.socketBuffer with
  | none => exact hbound
  | some size => exact hbound.quietly (passes_requestQueue _ size)

theorem passes_listen (options : Config.ChannelOptions) :
    ∃ failures : List (Option Int), failures.length ≤ 1 ∧
      m.Passes (failures.map (.sent (Subscription.listen.message m.kernel.processNumber)))
        (listen options m).2 ∧
      ∀ listening, (listen options m).1 = .ok listening → failures = [none] := by
  have hsocket : m.Passes [] (m.call .openSocket).2 := (Machine.Passes.refl m).call .openSocket
  have hunbound := hsocket.call (.bindSocket m.kernel.processNumber)
  obtain ⟨failure, hsent, hnone⟩ := passes_subscribe (bound options m) m.kernel.processNumber
  have hsubscribed := (passes_bound m options).trans hsent
  have hlistens := listens_listen options m
  generalize listen options m = listened at hlistens
  cases hlistens with
  | unavailable cause => exact ⟨[], Nat.zero_le 1, hsocket, nofun⟩
  | unbound cause => exact ⟨[], Nat.zero_le 1, hunbound, nofun⟩
  | refused cause => exact ⟨[failure], Nat.le_refl 1, hsubscribed, nofun⟩
  | listening hok =>
    rw [hnone () hok] at hsubscribed
    exact ⟨[none], Nat.le_refl 1, hsubscribed.log _, fun _ _ ↦ rfl⟩

theorem isOk_listen_of_openFor (options : Config.ChannelOptions) (connector : Connector)
    (h : (openFor options m).1 = .ok connector) : (listen options m).1 = .ok () := by
  rw [openFor_eq] at h
  cases hlisten : (listen options m).1 with
  | ok listening => rfl
  | error cause =>
    rw [hlisten] at h
    cases h

theorem passes_receive (delivery : Delivery) :
    m.Passes [] (connector.receive delivery m).2.2 := by
  obtain ⟨records, -, hreceive⟩ := connector.snd_receive delivery m
  rw [hreceive]
  exact (Machine.Passes.refl m).logAll records

theorem isOpen_receive (delivery : Delivery) :
    (connector.receive delivery m).2.1.isOpen = connector.isOpen ∧
      (connector.receive delivery m).2.1.port = connector.port := by
  unfold receive
  split
  · split <;> exact ⟨rfl, rfl⟩
  · exact ⟨rfl, rfl⟩

theorem isOpen_close : (connector.close m).1.isOpen = false := by
  unfold close
  split
  · rfl
  · rename_i hclosed
    simpa using hclosed

theorem passes_close (h : connector.isOpen = true) :
    m.Passes [m.kernel.farewell connector.port] (connector.close m).2 := by
  obtain ⟨records, -, hclose⟩ := connector.snd_close m h
  rw [hclose]
  exact ((Machine.Passes.refl m).send _).logAll records

end

inductive Use where
  | receive (delivery : Delivery)
  | close
deriving DecidableEq

/-- What a use makes of a connector and its machine. -/
def use (state : Connector × Machine) : Use → Connector × Machine
  | .receive delivery => (state.1.receive delivery state.2).2
  | .close => state.1.close state.2

def useAll (state : Connector × Machine) (uses : List Use) : Connector × Machine :=
  uses.foldl use state

/-- A connector is closed before it is gone. -/
def drop (state : Connector × Machine) : Machine :=
  (state.1.close state.2).2

section
variable (state : Connector × Machine) (uses : List Use)

theorem useAll_of_closed (h : state.1.isOpen = false) : useAll state uses = state := by
  have huse (next : Use) : use state next = state := by
    cases next with
    | receive delivery => exact congrArg Prod.snd (state.1.receive_of_closed state.2 h delivery)
    | close => exact state.1.close_of_closed state.2 h
  induction uses with
  | nil => rfl
  | cons next rest ih => rwa [useAll, List.foldl_cons, huse]

theorem useAll_of_notMem (hopen : state.1.isOpen = true) (h : .close ∉ uses) :
    (useAll state uses).1.isOpen = true ∧ (useAll state uses).1.port = state.1.port ∧
      state.2.Passes [] (useAll state uses).2 := by
  induction uses generalizing state with
  | nil => exact ⟨hopen, rfl, .refl state.2⟩
  | cons next rest ih =>
    obtain ⟨hnext, hrest⟩ := not_or.1 (mt List.mem_cons.2 h)
    cases next with
    | close => exact absurd rfl hnext
    | receive delivery =>
      obtain ⟨hkept, hport⟩ := state.1.isOpen_receive state.2 delivery
      obtain ⟨hopen', hport', hpasses⟩ :=
        ih (use state (.receive delivery)) (hkept.trans hopen) hrest
      exact ⟨hopen', hport'.trans hport, (state.1.passes_receive state.2 delivery).trans hpasses⟩

/-- It is the first closing that sends the message. -/
theorem useAll_of_mem (hopen : state.1.isOpen = true) (h : .close ∈ uses) :
    (useAll state uses).1.isOpen = false ∧
      state.2.Passes [state.2.kernel.farewell state.1.port] (useAll state uses).2 := by
  obtain ⟨before, after, rfl, hbefore⟩ := List.eq_append_cons_of_mem h
  obtain ⟨hstill, hport, hpasses⟩ := useAll_of_notMem state before hopen hbefore
  let reached := useAll state before
  have hclosed := reached.1.isOpen_close reached.2
  have hsplit : useAll state (before ++ .close :: after) = reached.1.close reached.2 := by
    rw [useAll, List.foldl_append, List.foldl_cons]
    exact useAll_of_closed _ after hclosed
  have hsent := hpasses.trans (reached.1.passes_close reached.2 hstill)
  rw [hpasses.kernel, hport] at hsent
  rw [hsplit]
  exact ⟨hclosed, hsent⟩

end

/-- The rest of the life of an open connector, until it is dropped. -/
structure UnsubscribesOnce (connector : Connector) (m : Machine) : Prop where
  life : ∀ uses, m.Passes [m.kernel.farewell connector.port] (drop (useAll (connector, m) uses))
  unclosed : ∀ uses, .close ∉ uses → (useAll (connector, m) uses).1.isOpen = true ∧
    m.Passes [] (useAll (connector, m) uses).2
  closed : ∀ uses, .close ∈ uses → (useAll (connector, m) uses).1.isOpen = false ∧
    m.Passes [m.kernel.farewell connector.port] (useAll (connector, m) uses).2
  /-- Nothing changes a closed connector any more, nor the machine by way of it. -/
  settled : ∀ uses, .close ∈ uses → ∀ later delivery,
    let reached := useAll (connector, m) uses
    useAll reached later = reached ∧ drop reached = reached.2 ∧
      reached.1.receive delivery reached.2 = (.error .closed, reached)

theorem unsubscribesOnce (connector : Connector) (m : Machine) (hopen : connector.isOpen = true) :
    connector.UnsubscribesOnce m := by
  have hsettled (uses : List Use) (h : .close ∈ uses) :
      drop (useAll (connector, m) uses) = (useAll (connector, m) uses).2 :=
    congrArg Prod.snd (close_of_closed _ _ (useAll_of_mem (connector, m) uses hopen h).1)
  constructor
  case unclosed =>
    intro uses h
    obtain ⟨hstill, -, hpasses⟩ := useAll_of_notMem (connector, m) uses hopen h
    exact ⟨hstill, hpasses⟩
  case closed => exact fun uses ↦ useAll_of_mem (connector, m) uses hopen
  case settled =>
    intro uses h later delivery
    have hclosed := (useAll_of_mem (connector, m) uses hopen h).1
    exact ⟨useAll_of_closed _ later hclosed, hsettled uses h,
      receive_of_closed _ _ hclosed delivery⟩
  case life =>
    intro uses
    by_cases h : .close ∈ uses
    · rw [hsettled uses h]
      exact (useAll_of_mem (connector, m) uses hopen h).2
    · obtain ⟨hstill, hport, hpasses⟩ := useAll_of_notMem (connector, m) uses hopen h
      have hdropped := hpasses.trans (passes_close _ _ hstill)
      rwa [hpasses.kernel, hport] at hdropped

/-- What opening a connector comes to, and what becomes of the connector. -/
structure SubscribesOnce (options : Config.ChannelOptions) (m : Machine) : Prop where
  refused : ∀ cause m', openFor options m = (.error cause, m') →
    ∃ failures : List (Option Int), failures.length ≤ 1 ∧
      m.Passes (failures.map (.sent (Subscription.listen.message m.kernel.processNumber))) m'
  opened : ∀ connector m', openFor options m = (.ok connector, m') →
    connector.isOpen = true ∧ connector.port = m.kernel.processNumber ∧
      m.Passes [.sent (Subscription.listen.message m.kernel.processNumber) none] m' ∧
      connector.UnsubscribesOnce m'

theorem subscribesOnce (options : Config.ChannelOptions) (m : Machine) :
    SubscribesOnce options m := by
  obtain ⟨failures, hlength, hpasses, hnone⟩ := passes_listen m options
  rw [← snd_openFor] at hpasses
  constructor
  case refused =>
    intro cause m' hopen
    rw [hopen] at hpasses
    exact ⟨failures, hlength, hpasses⟩
  case opened =>
    intro connector m' hopen
    obtain ⟨hconnector, -⟩ := eq_of_openFor options m m' connector hopen
    have hlistening := isOk_listen_of_openFor m options connector (congrArg Prod.fst hopen)
    rw [hnone () hlistening, hopen] at hpasses
    rw [hconnector]
    exact ⟨rfl, rfl, hpasses, unsubscribesOnce _ m' rfl⟩

end Connector

/-! ## The controller -/

/-- The milestone that a task leaves. A reload flushes the listing of the rules. -/
def Task.milestone? : Task → Option Milestone
  | handle batch => some (.handled batch)
  | reload => some .flushed
  | change _ _ => none

/-- The milestones of all incidents up to the one that ends the daemon. -/
def workOf (bufferSize : Nat) (incidents : List Incident) : List Milestone :=
  (Controller.taken incidents).filterMap fun incident ↦
    (incident.task? bufferSize).bind Task.milestone?

namespace Controller

variable {σ : Type} [Classifier σ] (c : Controller σ)

section
variable {m : Machine} {milestones : List Milestone}

omit [Classifier σ]

theorem passes_log (h : m.Passes milestones c.machine) (level : Log.Level) (message : String) :
    m.Passes milestones (c.log level message).machine :=
  h.log _

theorem passes_announce (h : m.Passes milestones c.machine) :
    m.Passes milestones c.announce.machine :=
  (h.log _).log _

theorem passes_reported : c.machine.Passes [] c.reported.machine := by
  obtain ⟨records, hreported⟩ := c.machine_reported
  rw [hreported]
  exact (Machine.Passes.refl c.machine).logAll records

theorem connector_reported : c.reported.connector = c.connector := by
  unfold reported
  dsimp only
  split <;> rfl

/-- The connector is closed, and the log is flushed behind that. -/
theorem passes_finish (hopen : c.connector.isOpen = true) :
    c.machine.Passes [c.machine.kernel.farewell c.connector.port, .flushed] c.finish.machine ∧
      c.finish.connector.isOpen = false :=
  ⟨(c.connector.passes_close c.machine hopen).flush.log _, c.connector.isOpen_close c.machine⟩

theorem passes_shutDown (hopen : c.connector.isOpen = true) :
    c.machine.Passes [c.machine.kernel.farewell c.connector.port, .flushed] c.shutDown.machine ∧
      c.shutDown.connector.isOpen = false := by
  have hreported := c.passes_reported
  obtain ⟨hfinished, hclosed⟩ := c.reported.passes_finish (c.connector_reported.symm ▸ hopen)
  have hpasses := hreported.trans hfinished
  rw [hreported.kernel, c.connector_reported] at hpasses
  exact ⟨hpasses, hclosed⟩

end

theorem passes_handleBatch (batch : Bytes) :
    c.machine.Passes [.handled batch] (c.handleBatch batch).machine :=
  (((Machine.Passes.refl c.machine).withTree _).logAll _).note (.handled batch)

theorem passes_reload : c.machine.Passes [.flushed] c.reload.machine := by
  rw [reload_machine]
  exact ((((c.passes_announce (.refl _)).logAll _).list _ _).flush).log _

theorem passes_handle (hopen : c.connector.isOpen = true) (incident : Incident) :
    c.machine.Passes ((incident.task? c.connector.bufferSize).bind Task.milestone?).toList
      (c.handle incident).controller.machine := by
  cases incident with
  | fileChange location entry => exact (Machine.Passes.refl c.machine).withTree _
  | reload => exact c.passes_reload
  | stop signal => exact c.passes_log (.refl _) _ _
  | delivery delivery =>
    have hreceived := c.connector.passes_receive c.machine delivery
    cases delivery with
    | failure cause =>
      by_cases hretried : IsRetried cause
      · obtain ⟨m, -, hreceive⟩ :=
          c.connector.receive_of_retried c.machine hopen cause hretried
        rw [hreceive] at hreceived
        simp only [handle, hreceive]
        exact hreceived
      · simp only [handle, c.connector.receive_of_not_retried c.machine hopen cause hretried]
        exact .refl c.machine
    | datagram bytes sender =>
      by_cases hlong : 16 ≤ (bytes.take c.connector.bufferSize).length
      · have hreceive := c.connector.receive_of_long c.machine hopen bytes sender hlong
        simp only [handle, hreceive]
        by_cases hsender : sender = none ∨ sender = some 0
        · rw [if_pos ((isFromKernel_iff sender).2 hsender), Incident.task?,
            if_pos ⟨hlong, hsender⟩]
          exact c.passes_handleBatch _
        · rw [if_neg (mt (isFromKernel_iff sender).1 hsender), Incident.task?,
            if_neg fun htask ↦ hsender htask.2]
          exact c.passes_log (.refl _) _ _
      · obtain ⟨m, -, hreceive⟩ := c.connector.receive_of_short c.machine hopen bytes sender
          (Nat.not_le.1 hlong)
        rw [hreceive] at hreceived
        simp only [handle, hreceive]
        rw [Incident.task?, if_neg fun htask ↦ hlong htask.1]
        exact hreceived

omit [Classifier σ] in
theorem workOf_cons (bufferSize : Nat) (incident : Incident) (rest : List Incident) :
    workOf bufferSize (incident :: rest) =
      ((incident.task? bufferSize).bind Task.milestone?).toList ++
        if incident.result? = none then workOf bufferSize rest else [] := by
  unfold workOf taken
  cases hresult : incident.result? with
  | none =>
    rw [List.takeWhile_cons_of_pos (by simp [hresult]), List.filterMap_cons, if_pos rfl]
    cases (incident.task? bufferSize).bind Task.milestone? <;> rfl
  | some result =>
    have htask : incident.task? bufferSize = none := by
      cases incident with
      | stop signal => rfl
      | delivery delivery =>
        cases delivery with
        | failure cause => rfl
        | datagram bytes sender => cases hresult
      | reload | fileChange => cases hresult
    rw [List.takeWhile_cons_of_neg (by simp [hresult]), htask, if_neg (Option.some_ne_none result)]
    rfl

theorem passes_handleAll (hopen : c.connector.isOpen = true) (incidents : List Incident) :
    c.machine.Passes (workOf c.connector.bufferSize incidents)
      (c.handleAll incidents).2.machine := by
  induction incidents generalizing c with
  | nil => exact c.passes_log (.refl _) _ _
  | cons incident rest ih =>
    have hfirst := c.passes_handle hopen incident
    rw [workOf_cons]
    cases hresult : incident.result? with
    | some result =>
      obtain ⟨c', hhandle, -⟩ := c.handle_of_result?_eq_some hopen incident result hresult
      rw [hhandle] at hfirst
      rw [if_neg (Option.some_ne_none result), List.append_nil]
      simp only [handleAll, hhandle]
      exact hfirst
    | none =>
      obtain ⟨c', hhandle, htakes⟩ := c.handle_of_result?_eq_none hopen incident hresult
      have hrest := ih c' (htakes.isOpen hopen)
      rw [htakes.connector] at hrest
      rw [hhandle] at hfirst
      rw [if_pos rfl]
      simp only [handleAll, hhandle]
      exact hfirst.trans hrest

/-- Whatever ends the controller, it unsubscribes behind its work and flushes the log behind
that. -/
theorem passes_run (hopen : c.connector.isOpen = true) (incidents : List Incident) :
    c.machine.Passes (workOf c.connector.bufferSize incidents ++
      [c.machine.kernel.farewell c.connector.port, .flushed]) (c.run incidents).2.machine ∧
      (c.run incidents).2.connector.isOpen = false := by
  have hstarted : c.machine.Passes [] c.started.machine := c.passes_log (.refl _) _ _
  have hworked := hstarted.trans (c.started.passes_handleAll hopen incidents)
  have htakes := c.started.takes_handleAll hopen incidents
  obtain ⟨hended, hclosed⟩ :=
    (c.started.handleAll incidents).2.passes_shutDown (htakes.isOpen hopen)
  have hpasses := hworked.trans hended
  rw [hworked.kernel, htakes.connector] at hpasses
  exact ⟨hpasses, hclosed⟩

end Controller

/-! ## The whole run -/

/-- No message but the listen message is sent. -/
def OnlyListens (port : UInt32) (milestones : List Milestone) : Prop :=
  ∀ milestone ∈ milestones, milestone = .flushed ∨
    ∃ failure, milestone = .sent (Subscription.listen.message port) failure

namespace Stage

variable (kernel : Kernel)

theorem passes_subscription (options : Config.ChannelOptions) :
    (step .ofOpenFailure (Connector.openFor options)).Passes kernel
      (fun connector milestones ↦ connector.isOpen = true ∧
        connector.port = kernel.processNumber ∧
        milestones = [.sent (Subscription.listen.message kernel.processNumber) none])
      (OnlyListens kernel.processNumber) := by
  refine passes_step kernel _ _ _ _ fun m hkernel ↦ ?_
  subst hkernel
  have hopening := Connector.subscribesOnce options m
  rcases hopen : Connector.openFor options m with ⟨cause | connector, m'⟩
  · obtain ⟨failures, -, hpasses⟩ := hopening.refused cause m' hopen
    refine ⟨_, hpasses, fun milestone hmilestone ↦ .inr ?_⟩
    obtain ⟨failure, -, rfl⟩ := List.mem_map.1 hmilestone
    exact ⟨failure, rfl⟩
  · obtain ⟨hisOpen, hport, hpasses, -⟩ := hopening.opened connector m' hopen
    exact ⟨_, hpasses, hisOpen, hport, rfl⟩

theorem onlyListens_nil (port : UInt32) : OnlyListens port [] :=
  List.forall_mem_nil _

/-- What a start has gone through before the controller takes over. -/
def HasSubscribed (kernel : Kernel) (taken : Settings × Engine × Connector)
    (milestones : List Milestone) : Prop :=
  taken.2.2.isOpen = true ∧ taken.2.2.port = kernel.processNumber ∧
    milestones = [.flushed, .sent (Subscription.listen.message kernel.processNumber) none]

theorem passes_takeUp (settings : Settings) (engine : Engine) :
    (takeUp settings engine).Passes kernel (HasSubscribed kernel)
      (OnlyListens kernel.processNumber) := by
  have hnone := onlyListens_nil kernel.processNumber
  refine (isSilent_get kernel).bind hnone fun m ↦ ?_
  refine (isSilent_log kernel _ _).bind hnone fun _ ↦ ?_
  refine (isSilent_call kernel _ _ fun _ ↦ rfl).bind hnone fun _ ↦ ?_
  refine (isSilent_call kernel _ _ fun _ ↦ rfl).bind hnone fun _ ↦ ?_
  have hlisted : (modify (listRules engine) : Stage Unit).Passes kernel
      (fun _ milestones ↦ milestones = [.flushed]) (fun _ ↦ False) :=
    passes_modify kernel fun m ↦ ((Machine.Passes.refl m).list _ _).flush
  refine hlisted.bind (fun _ ↦ False.elim) fun _ milestones hmilestones ↦ ?_
  subst hmilestones
  refine (passes_subscription kernel settings.channel).bind (fun milestones honly ↦ ?_)
    fun connector milestones hconnector ↦ ?_
  · exact List.forall_mem_cons.2 ⟨.inl rfl, honly⟩
  · obtain ⟨hopen, hport, rfl⟩ := hconnector
    refine (isSilent_log kernel _ _).bind ?_ fun _ ↦ passes_pure kernel ⟨hopen, hport, rfl⟩
    exact List.forall_mem_cons.2 ⟨.inl rfl, List.forall_mem_singleton.2 (.inr ⟨none, rfl⟩)⟩

theorem passes_startUp (options : Options) (identities : Identities) :
    (startUp options identities).Passes kernel (HasSubscribed kernel)
      (OnlyListens kernel.processNumber) := by
  have hnone := onlyListens_nil kernel.processNumber
  rw [startUp_eq]
  refine (isSilent_log kernel _ _).bind hnone fun _ ↦ ?_
  refine (isSilent_requireRoot kernel).bind hnone fun _ ↦ ?_
  refine (isSilent_loadSettings kernel options).bind hnone fun settings ↦ ?_
  refine (isSilent_startEngine kernel identities settings).bind hnone fun engine ↦ ?_
  have hopened : (modify (openLog settings) : Stage Unit).IsSilent kernel :=
    passes_modify kernel (passes_openLog settings)
  refine hopened.bind hnone fun _ ↦ ?_
  split
  · exact (isSilent_daemonize kernel).bind hnone fun _ ↦ passes_takeUp kernel settings engine
  · exact passes_takeUp kernel settings engine

end Stage

theorem passes_finish (environment : Environment) (result : Except Failure Unit) (m : Machine) :
    m.Passes [] (finish environment result m).2 := by
  cases result with
  | ok finished => exact (Machine.Passes.refl m).close
  | error failure => exact ((Machine.Passes.refl m).log _).close

theorem sent_notMem_workOf (bufferSize : Nat) (incidents : List Incident) (message : Bytes)
    (failure : Option Int) : .sent message failure ∉ workOf bufferSize incidents := by
  intro hmem
  obtain ⟨incident, -, hsent⟩ := List.mem_filterMap.1 hmem
  obtain ⟨task, -, hsent⟩ := Option.bind_eq_some_iff.1 hsent
  cases task <;> cases hsent

/-- The subscription of a daemon from its start to its end. -/
structure ServesOneSubscription (options : Options) (environment : Environment)
    (incidents : List Incident) (m : Machine) : Prop where
  /-- Without a controller there is nothing to unsubscribe from. -/
  halted : ∀ halt m', (Stage.startUp options environment.identities).run m = .error halt m' →
    ∃ milestones, m.Passes milestones (runDaemon options environment incidents m).2 ∧
      OnlyListens m.kernel.processNumber milestones ∧
      ∀ failure, .sent (Subscription.ignore.message m.kernel.processNumber) failure ∉ milestones
  served : ∀ settings engine connector m',
    (Stage.startUp options environment.identities).run m = .ok (settings, engine, connector) m' →
    m.Passes (.flushed :: .sent (Subscription.listen.message m.kernel.processNumber) none ::
        (workOf connector.bufferSize incidents ++
          [m.kernel.farewell m.kernel.processNumber, .flushed]))
      (runDaemon options environment incidents m).2
  /-- The work in between sends nothing. -/
  unsent : ∀ bufferSize message failure, .sent message failure ∉ workOf bufferSize incidents
  /-- Dropping what the controller leaves changes nothing any more. -/
  released : ∀ settings engine connector m',
    (Stage.startUp options environment.identities).run m = .ok (settings, engine, connector) m' →
    let controller : Controller Engine :=
      ⟨m', ⟨settings.processRoot, settings.useCache, engine, {}⟩, connector, 0, .running⟩
    let last := (controller.run incidents).2
    last.connector.isOpen = false ∧ Connector.drop (last.connector, last.machine) = last.machine

theorem servesOneSubscription (options : Options) (environment : Environment)
    (incidents : List Incident) (m : Machine) :
    ServesOneSubscription options environment incidents m := by
  have hstart := Stage.passes_startUp m.kernel options environment.identities m rfl
  constructor
  case halted =>
    intro halt m' hrun
    rw [hrun] at hstart
    obtain ⟨milestones, hpasses, honly⟩ := hstart
    refine ⟨milestones, ?_, honly, fun failure hmem ↦ ?_⟩
    · simp only [runDaemon, hrun]
      cases halt with
      | isParent => exact hpasses
      | crashed crash => exact hpasses
      | failed cause => exact hpasses.quietly (passes_finish environment _ m')
    · rcases honly _ hmem with hflushed | ⟨failure', hsame⟩
      · cases hflushed
      · exact listen_message_ne_ignore_message _ _ (Milestone.sent.inj hsame).1.symm
  case served =>
    intro settings engine connector m' hrun
    rw [hrun] at hstart
    obtain ⟨milestones, hpasses, hopen, hport, rfl⟩ := hstart
    obtain ⟨hserved, -⟩ := Controller.passes_run
      ⟨m', ⟨settings.processRoot, settings.useCache, engine, {}⟩, connector, 0, .running⟩
      hopen incidents
    have hall := hpasses.trans hserved
    rw [hpasses.kernel, hport] at hall
    rw [runDaemon_of_startUp options environment incidents m m' settings engine connector hrun]
    exact hall.quietly (passes_finish environment _ _)
  case unsent => exact fun bufferSize ↦ sent_notMem_workOf bufferSize incidents
  case released =>
    intro settings engine connector m' hrun controller last
    rw [hrun] at hstart
    obtain ⟨-, -, hopen, -⟩ := hstart
    have hclosed := (controller.passes_run hopen incidents).2
    exact ⟨hclosed, congrArg Prod.snd (Connector.close_of_closed _ _ hclosed)⟩

/-- Every connector subscribes once and unsubscribes once, and the daemon does so behind its work
and before its log is flushed for the last time. -/
theorem subscription_ends_once (m : Machine) :
    (∀ port sender, Subscription.listen.message port ≠ Subscription.ignore.message sender) ∧
      (∀ channel, Connector.SubscribesOnce channel m) ∧
      ∀ options environment incidents, ServesOneSubscription options environment incidents m :=
  ⟨listen_message_ne_ignore_message, fun channel ↦ Connector.subscribesOnce channel m,
    fun options environment incidents ↦ servesOneSubscription options environment incidents m⟩

/-- A daemon whose ignore message is refused, stopped by a signal or by a failure, and a connector
that is closed twice before it is dropped. -/
theorem subscription_ends_once_when_refused :
    let tree : FileTree := {
      entries := [(["etc"], .directory),
        (["etc", "cgrulesd.ini"], .file (Text.encode "[engine]\ncgroup_root=/cg\n")),
        (["rules"], .file (Text.encode "* * a\n")), (["cg"], .directory)]
      workingDirectory := [] }
    let kernel : Kernel := {
      processNumber := 9
      effectiveUser := 0
      failure := fun call ↦
        if call = .send (Subscription.ignore.message 9) then some 111 else none }
    let m : Machine := { kernel, outlets := { tree }, filter := .ofLevel .info }
    let options : Options := { rules := some "/rules", nodaemon := true }
    let environment : Environment := ⟨⟨[], []⟩, none, false⟩
    let batch := List.replicate 16 0
    let listened := Milestone.sent (Subscription.listen.message 9) none
    let ignored := Milestone.sent (Subscription.ignore.message 9) (some 111)
    (∃ connector m', Connector.openFor ⟨64, none⟩ m = (.ok connector, m') ∧
      m'.Passes [ignored] (Connector.drop
        (Connector.useAll (connector, m') [.close, .receive (.failure (.os 105)), .close]))) ∧
    (runDaemon options environment
      [.delivery (.datagram batch none), .reload, .stop .interrupt] m).2.milestones =
        [.flushed, listened, .handled batch, .flushed, ignored, .flushed] ∧
    (runDaemon options environment
      [.delivery (.datagram batch none), .delivery (.failure (.os 9))] m).2.milestones =
        [.flushed, listened, .handled batch, ignored, .flushed] := by
  intro tree kernel m options environment batch listened ignored
  obtain ⟨-, hconnectors, hdaemon⟩ := subscription_ends_once m
  have hfarewell : m.kernel.farewell m.kernel.processNumber = ignored := by decide +kernel
  refine ⟨?_, ?_⟩
  · have hchannel : (Connector.openFor ⟨64, none⟩ m).1.isOk = true := by decide +kernel
    rcases hopen : Connector.openFor ⟨64, none⟩ m with ⟨cause | connector, m'⟩
    · rw [hopen] at hchannel
      cases hchannel
    · obtain ⟨-, hport, hpasses, hends⟩ := (hconnectors ⟨64, none⟩).opened connector m' hopen
      have hlife := hends.life [.close, .receive (.failure (.os 105)), .close]
      rw [hpasses.kernel, hport, hfarewell] at hlife
      exact ⟨connector, m', rfl, hlife⟩
  · have hstarted : (match (Stage.startUp options environment.identities).run m with
        | .ok taken _ => taken.2.2.bufferSize
        | .error _ _ => 0) = 4096 := by decide +kernel
    cases hrun : (Stage.startUp options environment.identities).run m with
    | error halt m' =>
      rw [hrun] at hstarted
      cases hstarted
    | ok taken m' =>
      obtain ⟨settings, engine, connector⟩ := taken
      rw [hrun] at hstarted
      have hserved (incidents : List Incident) :=
        ((hdaemon options environment incidents).served settings engine connector m'
          hrun).milestones
      rw [show connector.bufferSize = 4096 from hstarted, hfarewell] at hserved
      exact ⟨(hserved _).trans (by decide +kernel), (hserved _).trans (by decide +kernel)⟩

end Regroup.Daemon
