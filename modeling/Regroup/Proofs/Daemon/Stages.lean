import Regroup.Proofs.Daemon.Outcome
import Regroup.Proofs.Daemon.Run

/-!
# The first stage that fails

Every stage comes to the outcome that is settled for it from the beginning, so a start halts at the
first stage that is bound to fail, with its exit status. What has been done until then is in order,
and none of it belongs to a later stage: a start that fails before the log is opened has changed no
file and only written to the error output. A log file that cannot be opened stops nothing, since the
log goes to the standard output then. In the end the log is closed, once and behind everything else.

Only one thing ends a start without a failure of its stages: where the receive buffer cannot be had
the process crashes, with the listen message sent, the log open and no exit status of a stage.

Of the two processes that forking leaves, this is about the one that goes on.
-/

namespace Regroup.Daemon

open CommandLine (Options)
open Config (Settings)
open Log (Destination Record)
open Netlink (Subscription)

theorem unlessFails_cons {ε α : Type} (f : α → Option ε) (a : α) (as : List α) :
    unlessFails ((a :: as).findSome? f) =
      (f a).elim (unlessFails (as.findSome? f)) .error := by
  rw [List.findSome?_cons]
  cases f a <;> rfl

namespace Machine

variable (m : Machine) (c : SystemCall)

theorem journal_call : (m.call c).2.journal = m.journal ++ [.called c (m.call c).1] := by
  unfold call afterSuccess
  dsimp only
  split
  · split <;> rfl
  · rfl

theorem tree_call_of_ne (h : c ≠ .enterRootDirectory) : (m.call c).2.tree = m.tree := by
  unfold call afterSuccess
  dsimp only
  split
  · split
    · exact absurd rfl h
    · rfl
    · rfl
    · rfl
  · rfl

theorem tree_call_enterRootDirectory (h : (m.call .enterRootDirectory).1 = none) :
    (m.call .enterRootDirectory).2.tree = { m.tree with workingDirectory := [] } := by
  unfold call at h ⊢
  dsimp only at h ⊢
  rw [h]
  rfl

/-- Only the null device is opened by a call. -/
theorem fst_call_of_ne (h : c ≠ .openNullDevice) : (m.call c).1 = m.kernel.failure c := by
  have hobstacle : m.obstacle c = none := by
    unfold obstacle
    split
    · exact absurd rfl h
    · rfl
  change (m.kernel.failure c).or (m.obstacle c) = _
  rw [hobstacle, Option.or_none]

end Machine

section
variable {start : Start} {settings : Settings} {m : Machine}

theorem fst_callInTurn_cons (call : SystemCall) (name : String)
    (rest : List (SystemCall × String)) (m : Machine) :
    (callInTurn ((call, name) :: rest) m).1 = ((m.call call).1.map (BackgroundError.mk name)).elim
      (callInTurn rest (m.call call).2).1 .error := by
  simp only [callInTurn]
  rcases m.call call with ⟨_ | code, reached⟩ <;> rfl

theorem stepFailure?_of_ne (hkernel : m.kernel = start.kernel) (call : SystemCall) (name : String)
    (h : call ≠ .openNullDevice) :
    (m.call call).1.map (BackgroundError.mk name) = start.stepFailure? settings (call, name) := by
  rw [m.fst_call_of_ne call h, hkernel, Start.stepFailure?, if_neg h, Option.or_none]

theorem sameShape_call (call : SystemCall)
    (hshape : FileTree.SameShape (start.detached settings) m.tree) :
    FileTree.SameShape (start.detached settings) (m.call call).2.tree := by
  by_cases hroot : call = .enterRootDirectory
  · subst hroot
    cases hfailure : (m.call .enterRootDirectory).1 with
    | none =>
      rw [m.tree_call_enterRootDirectory hfailure]
      exact ⟨hshape.kind, rfl, hshape.substitutes⟩
    | some code =>
      have hkept : (m.call .enterRootDirectory).2.tree = m.tree := by
        unfold Machine.call at hfailure ⊢
        dsimp only at hfailure ⊢
        rw [hfailure]
        rfl
      rw [hkept]
      exact hshape
  · rw [m.tree_call_of_ne call hroot]
    exact hshape

/-- Once the root directory has been entered all calls fail as expected. -/
theorem fst_callInTurn_of_detached (steps : List (SystemCall × String))
    (hkernel : m.kernel = start.kernel)
    (hshape : FileTree.SameShape (start.detached settings) m.tree) :
    (callInTurn steps m).1 = unlessFails (steps.findSome? (start.stepFailure? settings)) := by
  induction steps generalizing m with
  | nil => rfl
  | cons step rest ih =>
    obtain ⟨call, name⟩ := step
    have hfailure : (m.call call).1.map (BackgroundError.mk name) =
        start.stepFailure? settings (call, name) := by
      by_cases hnull : call = .openNullDevice
      · have hobstacle : m.obstacle .openNullDevice =
            nullDeviceFailure? (start.detached settings) := by
          rw [nullDeviceFailure?, hshape.openForWriting_eq]
          rfl
        rw [hnull, Start.stepFailure?, if_pos rfl, ← hobstacle, ← hkernel]
        rfl
      · exact stepFailure?_of_ne hkernel call name hnull
    rw [fst_callInTurn_cons, unlessFails_cons, hfailure,
      ih ((m.kernel_call call).trans hkernel) (sameShape_call call hshape)]

/-- Detaching enters the root directory before it opens the null device. -/
theorem fst_callInTurn_detachingSteps (keepOutput : Bool) (hkernel : m.kernel = start.kernel)
    (hshape : FileTree.SameShape (start.log settings).2 m.tree) :
    (callInTurn (detachingSteps keepOutput) m).1 =
      unlessFails ((detachingSteps keepOutput).findSome? (start.stepFailure? settings)) := by
  let led := (m.call .newSession).2
  have hled : led.kernel = start.kernel := (m.kernel_call .newSession).trans hkernel
  have hsession : led.tree = m.tree := m.tree_call_of_ne .newSession (by decide)
  obtain ⟨rest, hsteps⟩ : ∃ rest, detachingSteps keepOutput =
      (.newSession, "setsid") :: (.enterRootDirectory, "chdir") :: rest := ⟨_, rfl⟩
  rw [hsteps, fst_callInTurn_cons, unlessFails_cons,
    stepFailure?_of_ne hkernel .newSession "setsid" (by decide)]
  congr 1
  rw [fst_callInTurn_cons, unlessFails_cons,
    ← stepFailure?_of_ne hled .enterRootDirectory "chdir" (by decide)]
  cases hentered : (led.call .enterRootDirectory).1 with
  | some code => rfl
  | none =>
    refine fst_callInTurn_of_detached rest ((led.kernel_call _).trans hled) ?_
    rw [led.tree_call_enterRootDirectory hentered, hsession]
    exact ⟨hshape.kind, rfl, hshape.substitutes⟩

/-- Going into the background is to fork and to detach the child. -/
theorem fst_enterBackground (hopened : Stage.HasOpenedLog start settings m)
    (hchild : start.kernel.parentOf = none) (keepOutput : Bool) :
    (enterBackground keepOutput m).1 =
      (unlessFails (((.fork, "fork") :: detachingSteps keepOutput).findSome?
        (start.stepFailure? settings))).map fun _ ↦ .goesOn := by
  have hkernel : { m with inBackground := true }.kernel = start.kernel := hopened.logged.kernel
  have hforked := (Machine.kernel_call { m with inBackground := true } .fork).trans hkernel
  have htree : (Machine.call { m with inBackground := true } .fork).2.tree = m.tree :=
    Machine.tree_call_of_ne _ .fork (by decide)
  rw [unlessFails_cons, ← stepFailure?_of_ne hkernel .fork "fork" (by decide)]
  unfold enterBackground
  rw [hopened.inBackground, if_neg Bool.false_ne_true]
  rcases hcalled : Machine.call { m with inBackground := true } .fork with ⟨_ | code, forked⟩ <;>
    rw [hcalled] at hforked htree
  · have hdetached : (callInTurn _ (forked.note (.called .clearFileMask none))).1 = _ :=
      fst_callInTurn_detachingSteps keepOutput hforked (htree ▸ hopened.shape)
    dsimp only at hforked ⊢
    rw [hforked, hchild]
    exact congrArg (Except.map fun _ ↦ Continuation.goesOn) hdetached
  · rfl

theorem acts_callInTurn (port : UInt32) (steps : List (SystemCall × String)) (m : Machine)
    (hstage : ∀ step ∈ steps, step.1.stage port = 4)
    (hkept : m.destination = .output → ∀ step ∈ steps, step.1 ≠ .redirect .output) :
    m.Acts (Effect.BelongsTo port 4) (callInTurn steps m).2 := by
  refine callInTurn_keeps (m.Acts (Effect.BelongsTo port 4)) steps
    (fun reached hreached step hstep ↦ ?_) m (.refl m)
  have hcall := Effect.belongsTo_called port step.1
  rw [hstage step hstep] at hcall
  exact hreached.call step.1 (fun houtput ↦ hkept houtput step hstep) hcall

theorem stage_of_mem_detachingSteps (port : UInt32) (keepOutput : Bool) :
    ∀ step ∈ detachingSteps keepOutput, step.1.stage port = 4 := by
  cases keepOutput <;> simp [detachingSteps, redirectedStreams, SystemCall.stage]

/-- The child goes nowhere if it has been there before, or fails to fork, or is detached. -/
theorem snd_enterBackground_child (keepOutput : Bool) (m : Machine)
    (hchild : m.kernel.parentOf = none) :
    let forked := (Machine.call { m with inBackground := true } .fork).2
    let reached := (enterBackground keepOutput m).2
    reached = m ∨ reached = forked ∨ reached = (detach keepOutput forked).2 := by
  have hforked : (Machine.call { m with inBackground := true } .fork).2.kernel.parentOf = none := by
    rw [Machine.kernel_call]
    exact hchild
  rcases snd_enterBackground keepOutput m with
    hthere | hfailed | ⟨child, hparent, -⟩ | ⟨-, hdetached⟩
  · exact .inl hthere
  · exact .inr (.inl hfailed)
  · rw [hforked] at hparent
    cases hparent
  · exact .inr (.inr hdetached)

/-- The standard output is left alone if the log goes there. -/
theorem acts_enterBackground (port : UInt32) (m : Machine) (hchild : m.kernel.parentOf = none) :
    m.Acts (Effect.BelongsTo port 4) (enterBackground (m.destination == .output) m).2 := by
  have hsteps : m.destination = .output →
      ∀ step ∈ detachingSteps (m.destination == .output), step.1 ≠ .redirect .output := by
    intro houtput
    rw [houtput]
    decide
  have hasked : m.Acts (Effect.BelongsTo port 4) { m with inBackground := true } :=
    .of_eq rfl rfl rfl rfl rfl
  have hforked := hasked.call .fork (fun _ ↦ by decide) (Effect.belongsTo_called port .fork)
  rcases snd_enterBackground_child (m.destination == .output) m hchild with
    hthere | hfailed | hdetached
  · rw [hthere]
    exact .refl m
  · rw [hfailed]
    exact hforked
  · rw [hdetached]
    have hcleared := hforked.note (.called .clearFileMask none) rfl
      (Effect.belongsTo_called port .clearFileMask none)
    refine hcleared.trans (acts_callInTurn port _ _ (stage_of_mem_detachingSteps port _)
      fun houtput ↦ hsteps ?_)
    exact hcleared.destination.symm.trans houtput

end

namespace Stage

variable {start : Start} {settings : Settings} {engine : Engine} {m : Machine}

theorem comesTo_daemonize (hopened : HasOpenedLog start settings m)
    (hsettings : start.settings = .ok settings) (hchild : start.kernel.parentOf = none)
    (hdaemonize : settings.daemonize = true) :
    daemonize.ComesTo m ((start.background settings).mapError (.failed ∘ .background))
      (fun _ ↦ start.HasLogged settings 4) start.Halts := by
  have hacts := acts_enterBackground start.port m (hopened.logged.kernel ▸ hchild)
  have hlogged := hopened.logged.acts_of_ne hacts (by decide) (by decide)
  have hrun := run_step (Halt.failed ∘ Failure.background)
    (enterBackground (m.destination == .output)) m
  rw [fst_enterBackground hopened hchild, hopened.logged.destination] at hrun
  refine .of_step rfl ?_
  unfold Start.background
  rw [if_pos hdaemonize, hopened.logged.destination]
  rw [hopened.logged.destination] at hlogged
  cases hdetached : unlessFails (((.fork, "fork") ::
      detachingSteps ((start.log settings).1 == .output)).findSome?
        (start.stepFailure? settings)) with
  | ok detached =>
    rw [hdetached] at hrun
    exact .of_step hrun (comesTo_pure hlogged)
  | error cause =>
    rw [hdetached] at hrun
    have hstep : (step (Halt.failed ∘ Failure.background)
        (enterBackground ((start.log settings).1 == .output))).ComesTo m
        (.error (.failed (.background cause))) (fun _ _ ↦ True) start.Halts :=
      ⟨_, hrun, .late settings hsettings (by simp [Failure.exitCode]) hlogged⟩
    exact hstep.bind_of_error

theorem comesTo_call {failure : SystemError → Failure} {c : SystemCall} {cause? : Option Int}
    {returned : Unit → Machine → Prop} {halted : Halt → Machine → Prop}
    (hresult : (m.call c).1 = cause?) (hok : (m.call c).1 = none → returned () (m.call c).2)
    (herror : ∀ code, halted (.failed (failure (.os code))) (m.call c).2) :
    (call failure c).ComesTo m ((unlessFails (cause?.map .os)).mapError (.failed ∘ failure))
      returned halted := by
  subst hresult
  refine ⟨_, run_call failure c m, ?_⟩
  cases hcalled : (m.call c).1 with
  | none => exact hok hcalled
  | some code => exact herror code

/-- Both calls that take over the signals have succeeded. -/
def HasSignals (m : Machine) : Prop :=
  .called .startEventLoop none ∈ m.journal ∧ .called .handleSignals none ∈ m.journal

theorem comesTo_signals (hlogged : start.HasLogged settings 4 m)
    (hsettings : start.settings = .ok settings) :
    (do call .signals .startEventLoop; call .signals .handleSignals : Stage Unit).ComesTo m
      (start.signals.mapError (.failed ∘ .signals))
      (fun _ reached ↦ start.HasLogged settings 5 reached ∧ HasSignals reached) start.Halts := by
  have hcall {m : Machine} {stage : Nat} (c : SystemCall)
      (hlogged : start.HasLogged settings stage m) (hstage : stage ≤ 5)
      (hc : c.stage start.port = 5) (hstream : c ≠ .redirect .output) :
      start.HasLogged settings 5 (m.call c).2 :=
    hlogged.acts_of_ne ((Machine.Acts.refl m).call c (fun _ ↦ hstream) fun failure ↦
      hc ▸ Effect.belongsTo_called start.port c failure) hstage (by decide)
  have hfails (code : Int) (reached : Machine) (hreached : start.HasLogged settings 5 reached) :
      start.Halts (.failed (.signals (.os code))) reached :=
    .late settings hsettings (by simp [Failure.exitCode]) hreached
  have hloop : (call .signals .startEventLoop).ComesTo m
      ((unlessFails ((start.kernel.failure .startEventLoop).map .os)).mapError
        (.failed ∘ .signals))
      (fun _ reached ↦ start.HasLogged settings 5 reached ∧
        .called .startEventLoop none ∈ reached.journal) start.Halts := by
    have hlooping := hcall .startEventLoop hlogged (by decide) rfl (by decide)
    have hfailure := m.fst_call_of_ne .startEventLoop (by decide)
    rw [hlogged.kernel] at hfailure
    refine comesTo_call hfailure (fun hsucceeded ↦ ⟨hlooping, ?_⟩) fun code ↦ hfails code _ hlooping
    rw [m.journal_call, hsucceeded]
    exact List.mem_append_right _ List.mem_cons_self
  unfold Start.signals
  rw [mapError_bind]
  refine hloop.bind fun _ looping _ hreached ↦ ?_
  obtain ⟨hlooping, hstarted⟩ := hreached
  have hhandling := hcall .handleSignals hlooping (by decide) rfl (by decide)
  have hfailure := looping.fst_call_of_ne .handleSignals (by decide)
  rw [hlooping.kernel] at hfailure
  refine comesTo_call hfailure (fun hsucceeded ↦ ⟨hhandling, ?_⟩) fun code ↦ hfails code _ hhandling
  rw [HasSignals, looping.journal_call, hsucceeded]
  exact ⟨List.mem_append_left _ hstarted, List.mem_append_right _ List.mem_cons_self⟩

/-- The rules have been listed under generation zero. -/
def HasListed (m : Machine) : Prop :=
  ∃ listing, .listed 0 listing ∈ m.journal

theorem hasLogged_listRules (engine : Engine) (hlogged : start.HasLogged settings 5 m)
    (hsignals : HasSignals m) :
    start.HasLogged settings 6 (listRules engine m) ∧ HasSignals (listRules engine m) ∧
      HasListed (listRules engine m) := by
  let listing := s!"Rules (generation 0):\n{engine.listing}\n"
  have hacts : m.Acts (fun effect ↦ effect = .listed 0 listing ∨ effect = .flushed)
      (listRules engine m) :=
    ((Machine.Acts.refl m).list 0 listing (.inl rfl)).flush (.inr rfl)
  have hjournal : (listRules engine m).journal = m.journal ++ [.listed 0 listing] ++ [.flushed] :=
    rfl
  refine ⟨hlogged.acts hacts (by decide) (fun effect hallowed ↦ ?_) (fun _ _ ↦ hsignals)
    fun failure hallowed ↦ ?_, ?_, listing, ?_⟩
  · rcases hallowed with rfl | rfl
    · exact Effect.belongsTo_first_listing start.port listing
    · exact Effect.belongsTo_flushed start.port 6
  · rcases hallowed with hlisted | hflushed
    · cases hlisted
    · cases hflushed
  · rw [HasSignals, hjournal, List.append_assoc]
    exact ⟨List.mem_append_left _ hsignals.1, List.mem_append_left _ hsignals.2⟩
  · rw [hjournal]
    exact List.mem_append_left _ (List.mem_append_right _ List.mem_cons_self)

end Stage

namespace Connector

theorem acts_requestQueue (port : UInt32) (size : Nat) (m : Machine) :
    m.Acts (Effect.BelongsTo port 6) (requestQueue size m) := by
  obtain ⟨records, -, hrequest⟩ := requestQueue_eq size m
  rw [hrequest]
  exact ((Machine.Acts.refl m).call (.setReceiveQueue size) (fun _ ↦ nofun)
    (Effect.belongsTo_called port _)).logAll records (Effect.belongsTo_logged port 6)

theorem acts_bound (options : Config.ChannelOptions) (m : Machine) :
    m.Acts (Effect.BelongsTo m.kernel.processNumber 6) (bound options m) := by
  have hsocket : m.Acts (Effect.BelongsTo m.kernel.processNumber 6) (m.call .openSocket).2 :=
    (Machine.Acts.refl m).call .openSocket (fun _ ↦ nofun)
      (Effect.belongsTo_called _ .openSocket)
  have hbound := hsocket.call (.bindSocket m.kernel.processNumber) (fun _ ↦ nofun)
    (Effect.belongsTo_called _ (.bindSocket m.kernel.processNumber))
  unfold bound
  cases options.socketBuffer with
  | none => exact hbound
  | some size => exact hbound.trans (acts_requestQueue _ size _)

theorem acts_subscribe (port : UInt32) (m : Machine) :
    m.Acts (Effect.BelongsTo port 6) (subscribe port m).2 := by
  have hstage : (SystemCall.send (Subscription.listen.message port)).stage port = 6 := if_pos rfl
  rw [snd_subscribe]
  exact ((Machine.Acts.refl m).log _ (Effect.belongsTo_logged port 6 _)).call
    (.send (Subscription.listen.message port)) (fun _ ↦ nofun)
    fun failure ↦ hstage ▸ Effect.belongsTo_called port _ failure

theorem acts_listen (options : Config.ChannelOptions) (m : Machine) :
    m.Acts (Effect.BelongsTo m.kernel.processNumber 6) (listen options m).2 := by
  let port := m.kernel.processNumber
  have hopened : m.Acts (Effect.BelongsTo port 6) (m.call .openSocket).2 :=
    (Machine.Acts.refl m).call .openSocket (fun _ ↦ nofun)
      (Effect.belongsTo_called port .openSocket)
  have hrefused := hopened.call (.bindSocket port) (fun _ ↦ nofun)
    (Effect.belongsTo_called port (.bindSocket port))
  have hsubscribed := (acts_bound options m).trans (acts_subscribe port (bound options m))
  have hlistens := listens_listen options m
  generalize listen options m = listened at hlistens
  cases hlistens with
  | unavailable cause => exact hopened
  | unbound cause => exact hrefused
  | refused cause => exact hsubscribed
  | listening hsent => exact hsubscribed.log _ (Effect.belongsTo_logged port 6 _)

theorem fst_subscribe (start : Start) (m : Machine) (hkernel : m.kernel = start.kernel) :
    (subscribe start.port m).1 = start.subscription := by
  let message := Subscription.listen.message start.port
  let announced := m.log (channelRecord .debug
    s!"Sending proc connector PROC_CN_MCAST_LISTEN, netlink message len={message.length}")
  have hannounced : announced.kernel = start.kernel := (m.kernel_log _).trans hkernel
  have hfailure := announced.fst_call_of_ne (.send message) (by simp)
  have hsent := announced.kernel_call (.send message)
  unfold subscribe Start.subscription
  dsimp only
  rw [hfailure, hsent, hannounced]
  cases start.kernel.failure (.send message) with
  | some code => rfl
  | none =>
    dsimp only
    split <;> rfl

theorem fst_listen (start : Start) (options : Config.ChannelOptions) (m : Machine)
    (hkernel : m.kernel = start.kernel) : (listen options m).1 = start.connection := by
  have hport : start.port = m.kernel.processNumber :=
    (congrArg Kernel.processNumber hkernel).symm
  have hopening := m.fst_call_of_ne .openSocket (by decide)
  let opened := (m.call .openSocket).2
  have hopened : opened.kernel = m.kernel := m.kernel_call .openSocket
  have hbinding := opened.fst_call_of_ne (.bindSocket m.kernel.processNumber) (by simp)
  let queued := bound options m
  have hqueued : queued.kernel = m.kernel := kernel_bound options m
  have hsubscribing := fst_subscribe start queued (hqueued.trans hkernel)
  have hsubscribed := (kernel_subscribe m.kernel.processNumber queued).trans hqueued
  rw [hport] at hsubscribing
  unfold listen Start.connection
  dsimp only
  rw [hport, hopening, ← hkernel]
  cases m.kernel.failure .openSocket with
  | some code => rfl
  | none =>
  dsimp only
  rw [hbinding, hopened]
  cases m.kernel.failure (.bindSocket m.kernel.processNumber) with
  | some code => rfl
  | none =>
  dsimp only
  split
  · rename_i cause subscribed hsubscribe
    have hresult : (subscribe m.kernel.processNumber queued).1 = .error cause :=
      congrArg Prod.fst hsubscribe
    rw [← hsubscribing, hresult]
    rfl
  · rename_i accepted subscribed hsubscribe
    have hresult : (subscribe m.kernel.processNumber queued).1 = .ok accepted :=
      congrArg Prod.fst hsubscribe
    have hlast : (subscribe m.kernel.processNumber queued).2 = subscribed :=
      congrArg Prod.snd hsubscribe
    rw [hlast] at hsubscribed
    rw [← hsubscribing, hresult, hsubscribed]
    cases m.kernel.watchFailure <;> rfl

theorem fst_openFor (start : Start) (settings : Settings) (m : Machine)
    (hkernel : m.kernel = start.kernel) :
    (openFor settings.channel m).1 = start.channel settings := by
  rw [openFor_eq, fst_listen start settings.channel m hkernel, hkernel]
  unfold Start.channel
  cases start.connection with
  | error cause => rfl
  | ok connected =>
    have hsize : max settings.channel.receiveBuffer Settings.minReceiveBuffer =
        Start.bufferSize settings := rfl
    rw [hsize]
    cases start.kernel.crash? (Start.bufferSize settings) <;> rfl

end Connector

namespace Stage

variable {start : Start} {settings : Settings} {engine : Engine} {m : Machine}

theorem comesTo_channel (hlogged : start.HasLogged settings 6 m)
    (hsettings : start.settings = .ok settings) (hsignals : HasSignals m) (hlisted : HasListed m) :
    (step .ofOpenFailure (Connector.openFor settings.channel)).ComesTo m
      ((start.channel settings).mapError .ofOpenFailure)
      (fun connector reached ↦ connector.isOpen = true ∧ start.HasLogged settings 6 reached)
      start.Halts := by
  have hport : m.kernel.processNumber = start.port := congrArg Kernel.processNumber hlogged.kernel
  have hacts := Connector.acts_listen settings.channel m
  rw [hport, ← Connector.snd_openFor] at hacts
  have hreached := hlogged.acts hacts (Nat.le_refl 6) (fun _ hbelongs ↦ hbelongs)
    (fun _ _ ↦ hsignals) (fun _ _ ↦ hlisted)
  rw [← Connector.fst_openFor start settings m hlogged.kernel]
  refine ⟨_, run_step _ _ m, ?_⟩
  cases hopen : (Connector.openFor settings.channel m).1 with
  | ok connector =>
    exact ⟨(Connector.openFor_eq_ok _ _ _ _ (Prod.ext hopen rfl)).1, hreached⟩
  | error failure =>
    cases failure with
    | error cause => exact .late settings hsettings (by simp [Failure.exitCode]) hreached
    | crash crash => exact .crashed crash settings hsettings hreached

/-! ## The whole start -/

theorem comesTo_takeUp (hlogged : start.HasLogged settings 4 m)
    (hsettings : start.settings = .ok settings) :
    (takeUp settings engine).ComesTo m (do
        start.signals.mapError (.failed ∘ .signals)
        let connector ← (start.channel settings).mapError .ofOpenFailure
        return (settings, engine, connector))
      (fun taken reached ↦ taken.2.2.isOpen = true ∧ start.settings = .ok taken.1 ∧
        start.HasLogged taken.1 6 reached)
      start.Halts := by
  unfold takeUp
  refine .of_step rfl (.of_step rfl ?_)
  rw [← bind_assoc]
  refine (comesTo_signals (hlogged.log _) hsettings).bind fun _ _ _ hreached ↦ ?_
  obtain ⟨hreached, hsignals⟩ := hreached
  obtain ⟨hlogged, hsignals, hlisted⟩ := hasLogged_listRules engine hreached hsignals
  refine .of_step rfl ?_
  refine (comesTo_channel hlogged hsettings hsignals hlisted).bind fun _ _ _ hsubscribed ↦ ?_
  exact .of_step rfl (comesTo_pure ⟨hsubscribed.1, hsettings, hsubscribed.2.log _⟩)

/-- A start comes to its outcome, whatever the log. -/
theorem comesTo_startUp (h : start.IsEarly m) (hchild : start.kernel.parentOf = none) :
    (startUp start.options start.identities).ComesTo m start.outcome
      (fun taken reached ↦ taken.2.2.isOpen = true ∧ start.settings = .ok taken.1 ∧
        start.HasLogged taken.1 6 reached)
      start.Halts := by
  rw [startUp_eq]
  refine .of_step rfl ?_
  refine (comesTo_requireRoot (h.log _)).bind fun _ _ _ hroot ↦ ?_
  refine (comesTo_loadSettings hroot).bind fun settings _ hsettings hloaded ↦ ?_
  have hsettings := (mapError_eq_ok_iff _ _ _).1 hsettings
  refine (comesTo_startEngine hloaded settings).bind fun engine _ _ hstarted ↦ ?_
  have hopened := hasOpenedLog_openLog hstarted settings
  refine .of_step rfl ?_
  split
  · rename_i hdaemonize
    refine (comesTo_daemonize hopened hsettings hchild hdaemonize).bind fun _ _ _ hdetached ↦ ?_
    exact comesTo_takeUp hdetached hsettings
  · rename_i hforeground
    have hbackground : start.background settings = .ok () := if_neg hforeground
    rw [hbackground]
    exact comesTo_takeUp (hopened.logged.acts_of_ne (.refl _) (by decide) (by decide)) hsettings

end Stage

/-! ## Whole runs -/

/-- How far a run comes: a stage fails, which is told by its exit status, or the last stage crashes,
or the daemon runs. -/
inductive Fate where
  | fails (stage : Nat)
  | crashes (crash : Crash)
  | runs
deriving DecidableEq

namespace Fate

/-- The exit status of a daemon that runs says whether it loses the channel before it is asked to
stop. -/
def statusOf (incidents : List Incident) : Nat :=
  match (incidents ++ [Incident.stop .terminate]).findSome? Incident.result? with
  | some (.error _) => 7
  | some (.ok _) | none => 0

def exitStatus (incidents : List Incident) : Fate → Nat
  | fails stage => stage
  | crashes crash => crash.exitStatus
  | runs => statusOf incidents

/-- The last stage that is begun. -/
def lastStage : Fate → Nat
  | fails stage => stage
  | crashes _ => 6
  | runs => 7

end Fate

namespace Start

variable (start : Start)

/-- The first stage that fails settles the fate of a run. Where none of them fails, the receive
buffer may still be more than can be had. -/
def fate : Fate :=
  if start.kernel.effectiveUser ≠ 0 then .fails 1
  else
    match start.settings with
    | .error _ => .fails 2
    | .ok settings =>
      if !(start.engine settings).isOk then .fails 3
      else if !(start.background settings).isOk then .fails 4
      else if !start.signals.isOk then .fails 5
      else if !start.connection.isOk then .fails 6
      else (start.kernel.crash? (bufferSize settings)).elim .runs .crashes

/-- A run ends at the first stage that fails, and the effects that it leaves are in order and belong
to none of the later stages. -/
structure EndsInTime (start : Start) (incidents : List Incident) (effects : List Effect)
    (status : Nat) (m : Machine) : Prop where
  status : status = start.fate.exitStatus incidents
  inOrder : InOrder start.port start.fate.lastStage effects
  /-- The log is closed once, behind everything else. -/
  closed : (∀ crash, start.fate ≠ .crashes crash) →
    m.journal = effects ++ [.closed] ∧ m.destination = .closed
  /-- A crash leaves the log as it is. -/
  crashed : ∀ crash, start.fate = .crashes crash → m.journal = effects ∧
    ∃ settings, start.settings = .ok settings ∧ m.destination = (start.log settings).1 ∧
      start.kernel.crash? (bufferSize settings) = some crash
  early : start.fate.lastStage ≤ 3 → m.tree = start.tree ∧ m.outlets.output.content = [] ∧
    ∀ effect ∈ effects, ∃ record, effect = .logged record
  late : 3 < start.fate.lastStage → ∃ settings early late, start.settings = .ok settings ∧
    effects = early ++ late ∧ (∀ effect ∈ early, ∃ record, effect = .logged record) ∧
    m.outlets.output.content =
      start.banner settings ++ received (start.log settings).1 m.filter late

variable {start} {m : Machine}

/-- The outcome of a start settles the fate of the run. No start ends as the parent of another. -/
theorem fate_of_outcome :
    match start.outcome with
    | .error (.failed failure) => start.fate = .fails failure.exitCode
    | .error (.crashed crash) => start.fate = .crashes crash
    | .error .isParent => False
    | .ok _ => start.fate = .runs := by
  unfold fate outcome
  by_cases hroot : start.kernel.effectiveUser = 0
  · rw [if_neg (not_not.2 hroot), if_pos hroot]
    cases start.settings with
    | error cause => rfl
    | ok settings =>
      dsimp only [unlessFails, Except.mapError, bind, Except.bind]
      cases start.engine settings with
      | error cause => rfl
      | ok engine =>
        cases start.background settings with
        | error cause => rfl
        | ok _ =>
          cases start.signals with
          | error cause => rfl
          | ok _ =>
            unfold channel
            cases start.connection with
            | error cause => rfl
            | ok _ => cases start.kernel.crash? (bufferSize settings) <;> rfl
  · rw [if_pos hroot, if_neg hroot]
    rfl

theorem crash?_of_fate {settings : Settings} {crash : Crash} (h : start.fate = .crashes crash)
    (hsettings : start.settings = .ok settings) :
    start.kernel.crash? (bufferSize settings) = some crash := by
  have hlast : (start.kernel.crash? (bufferSize settings)).elim Fate.runs .crashes =
      .crashes crash := by
    unfold fate at h
    rw [hsettings] at h
    dsimp only at h
    -- every other branch is that of a stage that fails
    repeat' split at h
    all_goals first | exact h | cases h
  cases hfound : start.kernel.crash? (bufferSize settings) with
  | none =>
    rw [hfound] at hlast
    cases hlast
  | some found =>
    rw [hfound] at hlast
    exact congrArg some (Fate.crashes.inj hlast)

/-- Closing the log behind a stage that has left all in order. -/
theorem EndsInTime.of_early (incidents : List Incident) (status : Nat) {stage : Nat}
    (hfate : start.fate = .fails stage) (hstatus : status = stage) (hstage : stage ≤ 3)
    (h : start.IsEarly m) : start.EndsInTime incidents m.journal status m.close := by
  constructor
  case status => rw [hfate, hstatus, Fate.exitStatus]
  case inOrder => exact .of_logged h.journal
  case closed => exact fun _ ↦ ⟨rfl, rfl⟩
  case crashed =>
    intro crash hcrash
    cases hfate.symm.trans hcrash
  case early =>
    refine fun _ ↦ ⟨h.tree, ?_, h.journal⟩
    change m.outlets.output.content = []
    rw [h.output]
  case late =>
    intro hlate
    rw [hfate] at hlate
    exact absurd hstage (Nat.not_le.2 hlate)

theorem EndsInTime.of_late {settings : Settings} (incidents : List Incident) (status : Nat)
    (hfate : ∀ crash, start.fate ≠ .crashes crash)
    (hstatus : status = start.fate.exitStatus incidents) (hstage : 3 < start.fate.lastStage)
    (hsettings : start.settings = .ok settings)
    (h : start.HasLogged settings start.fate.lastStage m) :
    start.EndsInTime incidents m.journal status m.close := by
  obtain ⟨early, late, hsplit, hearly, hcontent⟩ := h.received
  exact ⟨hstatus, h.inOrder, fun _ ↦ ⟨rfl, rfl⟩, fun crash hcrash ↦ absurd hcrash (hfate crash),
    fun hfirst ↦ absurd hfirst (Nat.not_le.2 hstage),
    fun _ ↦ ⟨settings, early, late, hsettings, hsplit, hearly, hcontent⟩⟩

theorem EndsInTime.of_crash {settings : Settings} (incidents : List Incident) (crash : Crash)
    (hfate : start.fate = .crashes crash) (hsettings : start.settings = .ok settings)
    (h : start.HasLogged settings 6 m) :
    start.EndsInTime incidents m.journal crash.exitStatus m := by
  obtain ⟨early, late, hsplit, hearly, hcontent⟩ := h.received
  constructor
  case status => rw [hfate, Fate.exitStatus]
  case inOrder =>
    rw [hfate]
    exact h.inOrder
  case closed => exact fun hnone ↦ absurd hfate (hnone crash)
  case crashed =>
    intro found hfound
    exact ⟨rfl, settings, hsettings, h.destination, crash?_of_fate hfound hsettings⟩
  case early =>
    rw [hfate]
    exact fun hfirst ↦ absurd hfirst (show ¬ 6 ≤ 3 by decide)
  case late => exact fun _ ↦ ⟨settings, early, late, hsettings, hsplit, hearly, hcontent⟩

end Start

variable {start : Start} {m : Machine}

theorem endsInTime_runDaemon (environment : Environment) (incidents : List Incident)
    (hidentities : start.identities = environment.identities)
    (hchild : start.kernel.parentOf = none) (h : start.IsEarly m) :
    let ended := runDaemon start.options environment incidents m
    ∃ effects, start.EndsInTime incidents effects ended.1 ended.2 := by
  obtain ⟨reached, hrun, hreached⟩ := Stage.comesTo_startUp h hchild
  have hfate := start.fate_of_outcome
  unfold runDaemon
  rw [← hidentities, hrun]
  cases houtcome : start.outcome with
  | error halt =>
    rw [houtcome] at hreached hfate
    cases hreached with
    | early hfirst hearly => exact ⟨_, .of_early incidents _ hfate rfl hfirst (hearly.log _)⟩
    | late settings hsettings hlate hlogged =>
      have hstage : start.fate.lastStage = _ := congrArg Fate.lastStage hfate
      refine ⟨_, .of_late incidents _ (fun crash ↦ ?_) ?_ (hstage ▸ hlate) hsettings
        (hstage ▸ hlogged.log _)⟩
      · rw [hfate]
        exact nofun
      · rw [hfate]
        rfl
    | crashed crash settings hsettings hlogged =>
      exact ⟨_, .of_crash incidents crash hfate hsettings hlogged⟩
  | ok taken =>
    obtain ⟨settings, engine, connector⟩ := taken
    rw [houtcome] at hreached hfate
    obtain ⟨hopen, hsettings, hlogged⟩ := hreached
    have hstage : start.fate.lastStage = 7 := congrArg Fate.lastStage hfate
    have hstatus : start.fate.exitStatus incidents = Fate.statusOf incidents :=
      congrArg (Fate.exitStatus incidents) hfate
    have hruns : ∀ crash, start.fate ≠ .crashes crash := by
      rw [hfate]
      exact nofun
    let controller : Controller Engine :=
      ⟨reached, ⟨settings.processRoot, settings.useCache, engine, {}⟩, connector, 0, .running⟩
    have hworks := controller.works_run start.port incidents
    have hworked := hlogged.acts_of_ne hworks (by decide) (by decide)
    have hresult : some (controller.run incidents).1 = _ :=
      controller.started.handleAll_result hopen incidents
    unfold Fate.statusOf at hstatus
    rw [← hresult] at hstatus
    change ∃ effects, start.EndsInTime incidents effects
      (finish environment ((controller.run incidents).1.mapError .channelLost)
        (controller.run incidents).2.machine).1
      (finish environment ((controller.run incidents).1.mapError .channelLost)
        (controller.run incidents).2.machine).2
    cases hlast : (controller.run incidents).1 with
    | ok _ =>
      rw [hlast] at hstatus
      exact ⟨_, .of_late incidents _ hruns hstatus.symm (hstage ▸ by decide) hsettings
        (hstage ▸ hworked)⟩
    | error cause =>
      rw [hlast] at hstatus
      exact ⟨_, .of_late incidents _ hruns hstatus.symm (hstage ▸ by decide) hsettings
        (hstage ▸ hworked.log _)⟩

theorem Machine.log_withTree (m : Machine) (record : Record) (tree : FileTree)
    (h : m.destination = .errorOutput) :
    (m.withTree tree).log record = (m.log record).withTree tree := by
  unfold Machine.log
  dsimp only
  split <;> rename_i hpasses
  · rw [if_pos (show (m.note _).filter.passes record = true from hpasses)]
    simp [Machine.write, Machine.note, Machine.withTree, Log.Outlets.write, h]
  · rw [if_neg (show ¬ (m.note _).filter.passes record = true from hpasses)]
    rfl

theorem run_startUp_of_not_root (options : Options) (identities : Identities) (m : Machine)
    (hroot : m.kernel.effectiveUser ≠ 0) :
    (Stage.startUp options identities).run m = .error (.failed .notRoot)
      (m.log ⟨.trace, .daemon, s!"cgrulesd options: {Config.optionsText options}"⟩) := by
  let logged := m.log ⟨.trace, .daemon, s!"cgrulesd options: {Config.optionsText options}"⟩
  have hrefused := Stage.run_requireRoot logged
  rw [m.kernel_log, if_neg hroot] at hrefused
  rw [Stage.startUp_eq]
  change EStateM.bind Stage.requireRoot _ logged = _
  rw [EStateM.bind, show Stage.requireRoot logged = _ from hrefused]
  rfl

/-- Who is not root learns nothing of the files. -/
theorem runDaemon_withTree (options : Options) (environment : Environment)
    (incidents : List Incident) (m : Machine) (other : FileTree)
    (hdestination : m.destination = .errorOutput) (hroot : m.kernel.effectiveUser ≠ 0) :
    let ended := runDaemon options environment incidents m
    runDaemon options environment incidents (m.withTree other) =
      (ended.1, ended.2.withTree other) := by
  let logged := m.log ⟨.trace, .daemon, s!"cgrulesd options: {Config.optionsText options}"⟩
  have hlogged : logged.destination = .errorOutput :=
    (m.logAll_of_errorOutput [_] hdestination).1
  unfold runDaemon
  rw [run_startUp_of_not_root options environment.identities m hroot,
    run_startUp_of_not_root options environment.identities (m.withTree other) hroot,
    m.log_withTree _ other hdestination]
  simp only [finish]
  rw [logged.log_withTree _ other hlogged]
  rfl

theorem isEarly_printError (texts : List String) (h : start.IsEarly m) :
    start.IsEarly (texts.foldl Machine.printError m) := by
  induction texts generalizing m with
  | nil => exact h
  | cons text texts ih =>
    exact ih ⟨h.kernel, h.tree, h.destination, h.inBackground, h.output, h.journal⟩

theorem printError_withTree (texts : List String) (m : Machine) (tree : FileTree) :
    texts.foldl Machine.printError (m.withTree tree) =
      (texts.foldl Machine.printError m).withTree tree := by
  induction texts generalizing m with
  | nil => rfl
  | cons text texts ih => exact ih (m.printError text)

/-- Whatever fails, a daemon that goes on after forking ends at the first stage that fails, with the
exit status of that stage, and has done nothing of the later ones. If it is not root it has not even
read a file. Only a receive buffer that cannot be had makes it crash, and then it has subscribed to
the process events and leaves its log open. -/
theorem runProgram_ends_in_time (program : String) (arguments : List String)
    (environment : Environment) (kernel : Kernel) (tree : FileTree) (incidents : List Incident)
    (options : Options) (hread : CommandLine.read arguments = .ok options)
    (hchild : kernel.parentOf = none) :
    let start : Start := ⟨options, environment.identities, kernel, tree⟩
    let ended := runProgram program arguments environment kernel tree incidents
    (∃ effects, start.EndsInTime incidents effects ended.1 ended.2) ∧
      (kernel.effectiveUser ≠ 0 → ∀ other,
        runProgram program arguments environment kernel other incidents =
          (ended.1, ended.2.withTree other)) := by
  intro start ended
  let warnings := (environment.filter options).2.map fun fault ↦ s!"warning: {fault}\n"
  let fresh : Machine := { kernel, outlets := { tree }, filter := (environment.filter options).1 }
  have hfresh : start.IsEarly fresh := ⟨rfl, rfl, rfl, rfl, rfl, List.forall_mem_nil _⟩
  have hwarned := isEarly_printError warnings hfresh
  have hrun (tree : FileTree) : runProgram program arguments environment kernel tree incidents =
      runDaemon options environment incidents
        (warnings.foldl Machine.printError (fresh.withTree tree)) := by
    unfold runProgram
    rw [hread]
    rfl
  have hended : ended =
      runDaemon options environment incidents (warnings.foldl Machine.printError fresh) := hrun tree
  refine ⟨?_, fun hroot other ↦ ?_⟩
  · rw [hended]
    exact endsInTime_runDaemon environment incidents rfl hchild hwarned
  · rw [hended, hrun other, printError_withTree]
    exact runDaemon_withTree options environment incidents _ other hwarned.destination
      (hwarned.kernel ▸ hroot)

/-- A daemon whose log file has no directory goes into the background all the same, and ends when
its listen message is refused. -/
theorem runProgram_ends_at_refused_subscription :
    let tree : FileTree := {
      entries := [(["etc"], .directory),
        (["etc", "cgrulesd.ini"], .file (Text.encode "[engine]\ncgroup_root=/cg\n")),
        (["rules"], .file (Text.encode "* * a\n")), (["cg"], .directory)]
      workingDirectory := [] }
    let kernel : Kernel := {
      processNumber := 9
      effectiveUser := 0
      failure := fun call ↦
        if call = .send (Subscription.listen.message 9) then some 111 else none }
    let arguments := ["--rules", "/rules", "--log", "/missing/log"]
    let ended := runProgram "cgrulesd" arguments ⟨⟨[], []⟩, none, false⟩ kernel tree [.reload]
    CommandLine.read arguments = .ok { rules := some "/rules", log := some "/missing/log" } ∧
      kernel.parentOf = none ∧ ended.1 = 6 ∧ ended.2.destination = .closed ∧
      ∃ effects, ended.2.journal = effects ++ [.closed] ∧ InOrder 9 6 effects := by
  intro tree kernel arguments ended
  have hread : CommandLine.read arguments =
      .ok { rules := some "/rules", log := some "/missing/log" } := by decide +kernel
  obtain ⟨⟨effects, hends⟩, -⟩ := runProgram_ends_in_time "cgrulesd" arguments
    ⟨⟨[], []⟩, none, false⟩ kernel tree [.reload] _ hread rfl
  have hfate : Start.fate
      ⟨{ rules := some "/rules", log := some "/missing/log" }, ⟨[], []⟩, kernel, tree⟩ =
        .fails 6 := by decide +kernel
  have horder := hends.inOrder
  obtain ⟨hjournal, hclosed⟩ := hends.closed (by simp [hfate])
  rw [hfate] at horder
  refine ⟨hread, rfl, ?_, hclosed, effects, hjournal, horder⟩
  exact hends.status.trans (congrArg (Fate.exitStatus [.reload]) hfate)

/-- The largest receive buffer that the configuration accepts is none that can be had. No stage has
failed when the daemon crashes, and its exit status is that of none. -/
theorem runProgram_crashes_behind_subscription :
    let tree : FileTree := {
      entries := [(["etc"], .directory),
        (["etc", "cgrulesd.ini"], .file (Text.encode
          "[engine]\ncgroup_root=/cg\n[channel]\nrecv_buffer=18446744073709551615\n")),
        (["rules"], .file (Text.encode "* * a\n")), (["cg"], .directory)]
      workingDirectory := [] }
    let kernel : Kernel := { processNumber := 9, effectiveUser := 0 }
    let arguments := ["--rules", "/rules", "--nolog"]
    let ended := runProgram "cgrulesd" arguments ⟨⟨[], []⟩, none, false⟩ kernel tree []
    let sent : List Bytes := ended.2.journal.filterMap fun
      | .called (.send message) none => some message
      | _ => none
    (CommandLine.read arguments).isOk = true ∧ kernel.parentOf = none ∧ ended.1 = 101 ∧
      sent = [Subscription.listen.message 9] ∧ .closed ∉ ended.2.journal ∧
      ended.2.destination = .output := by
  decide +kernel

end Regroup.Daemon
