import Regroup.Daemon.Program
import Regroup.Proofs.Daemon.Turns

/-!
# A start that succeeds

Of a start that succeeds the controller takes over an engine with its rules in the cache, an open
connector, and a log that goes to the standard output or to a file. The rules are those that the
rules file held at the beginning. They are listed once, under generation zero, after the log has
been opened, and no phase has changed so far.
-/

namespace Regroup

namespace Engine

variable (engine : Engine) (tree : FileTree)

theorem init_eq_ok (started : Unit) (h : (engine.init tree).result = .ok started) :
    ∃ root, (engine.init tree).state = { engine with root := some root } := by
  unfold init at h ⊢
  split at h
  · cases h
  · rename_i root hroot
    exact ⟨root, rfl⟩

theorem load_of_ok (rules : RuleSet) (h : (engine.readRulesFile tree).result = .ok rules) :
    (engine.load tree).state = { engine with cache := some rules } := by
  simp only [load, h]

theorem load_of_error (cause : RulesError)
    (h : (engine.readRulesFile tree).result = .error cause) :
    (engine.load tree).state = engine := by
  simp only [load, h]

theorem load_eq_ok (loaded : Unit) (h : (engine.load tree).result = .ok loaded) :
    ∃ rules, (engine.readRulesFile tree).result = .ok rules := by
  cases hread : (engine.readRulesFile tree).result with
  | ok rules => exact ⟨rules, rfl⟩
  | error cause =>
    simp only [load, hread] at h
    cases h

end Engine

namespace Daemon

open CommandLine (Options)
open Config (Configuration Settings)
open Log (FromOthers Record)

namespace Machine

variable (m : Machine)

theorem kernel_call (c : SystemCall) : (m.call c).2.kernel = m.kernel := by
  unfold call afterSuccess
  dsimp only
  split
  · split <;> rfl
  · rfl

theorem kernel_log (record : Record) : (m.log record).kernel = m.kernel := by
  unfold log
  dsimp only
  split <;> rfl

theorem kernel_logAll (records : List Record) : (m.logAll records).kernel = m.kernel := by
  induction records generalizing m with
  | nil => rfl
  | cons record records ih => exact (ih (m.log record)).trans (m.kernel_log record)

end Machine

/-- The later machine has journalled no listing and no change of phase, it logs to where the earlier
one does, and the standard output is as open as before if the log goes there. -/
structure Machine.Prepares (m m' : Machine) : Prop where
  journals : m.Journals [] [] m'
  destination : m'.destination = m.destination
  output : m.destination = .output →
    m'.outlets.output.isCutOff = m.outlets.output.isCutOff

namespace Machine.Prepares

variable {m m' m'' : Machine}

theorem refl (m : Machine) : m.Prepares m :=
  ⟨.of_eq rfl, rfl, fun _ ↦ rfl⟩

theorem trans (h : m.Prepares m') (h' : m'.Prepares m'') : m.Prepares m'' := by
  refine ⟨h.journals.trans h'.journals, h'.destination.trans h.destination, fun houtput ↦ ?_⟩
  rw [h'.output (h.destination.trans houtput), h.output houtput]

theorem note (h : m.Prepares m') (effect : Effect) (hlisting : effect.listing? = none)
    (hchange : effect.change? = none) : m.Prepares (m'.note effect) :=
  h.trans ⟨⟨[effect], rfl, by simp [hlisting], by simp [hchange]⟩, rfl, fun _ ↦ rfl⟩

theorem write (h : m.Prepares m') (destination : Log.Destination) (bytes : Bytes) :
    m.Prepares { m' with outlets := m'.outlets.write destination bytes } := by
  refine h.trans ⟨.of_eq rfl, rfl, fun _ ↦ ?_⟩
  cases destination with
  | output =>
    simp only [Log.Outlets.write, Log.Stream.write]
    split <;> rfl
  | errorOutput | file location | closed => rfl

theorem log (h : m.Prepares m') (record : Record) (hrecord : record.target ≠ .controller) :
    m.Prepares (m'.log record) := by
  have hnoted := h.note (.logged record) rfl (isQuiet_of_target record hrecord)
  unfold Machine.log
  dsimp only
  split
  · exact hnoted.write _ _
  · exact hnoted

theorem call (h : m.Prepares m') (c : SystemCall)
    (hkept : m.destination = .output → c ≠ .redirect .output) : m.Prepares (m'.call c).2 := by
  have hnoted := h.note (.called c ((m'.kernel.failure c).or (m'.obstacle c))) rfl rfl
  unfold Machine.call
  dsimp only
  split
  · refine hnoted.trans ?_
    unfold afterSuccess
    split
    · exact ⟨.of_eq rfl, rfl, fun _ ↦ rfl⟩
    · exact ⟨.of_eq rfl, rfl, fun houtput ↦
        absurd rfl (hkept (hnoted.destination.symm.trans houtput))⟩
    · exact ⟨.of_eq rfl, rfl, fun _ ↦ rfl⟩
    · exact .refl _
  · exact hnoted

end Machine.Prepares

/-- What each of the calls keeps is kept however far they come. -/
theorem callInTurn_keeps (Kept : Machine → Prop) (steps : List (SystemCall × String))
    (hkeeps : ∀ m, Kept m → ∀ step ∈ steps, Kept (m.call step.1).2) (m : Machine) (h : Kept m) :
    Kept (callInTurn steps m).2 := by
  induction steps generalizing m with
  | nil => exact h
  | cons step rest ih =>
    obtain ⟨call, name⟩ := step
    have hcall : Kept (m.call call).2 := hkeeps m h _ List.mem_cons_self
    have hrest : ∀ m, Kept m → ∀ step ∈ rest, Kept (m.call step.1).2 :=
      fun m hm step hstep ↦ hkeeps m hm step (List.mem_cons_of_mem _ hstep)
    unfold callInTurn
    rcases hcalled : m.call call with ⟨_ | code, m'⟩ <;> rw [hcalled] at hcall
    · exact ih hrest m' hcall
    · exact hcall

theorem prepares_callInTurn (steps : List (SystemCall × String)) (m : Machine)
    (hkept : m.destination = .output → ∀ step ∈ steps, step.1 ≠ .redirect .output) :
    m.Prepares (callInTurn steps m).2 := by
  refine callInTurn_keeps m.Prepares steps (fun reached hreached step hstep ↦ ?_) m (.refl m)
  exact hreached.call step.1 fun houtput ↦ hkept houtput step hstep

/-- Where going into the background leads: nowhere if it has been asked for before, to a failure to
fork, to the end of the parent, or through the calls that detach the child. -/
theorem snd_enterBackground (keepOutput : Bool) (m : Machine) :
    let forked := (Machine.call { m with inBackground := true } .fork).2
    let reached := (enterBackground keepOutput m).2
    reached = m ∨ reached = forked ∨
      (∃ child, forked.kernel.parentOf = some child ∧ reached = bidFarewell child forked) ∨
      (forked.kernel.parentOf = none ∧ reached = (detach keepOutput forked).2) := by
  unfold enterBackground
  split
  · exact .inl rfl
  · rcases Machine.call { m with inBackground := true } .fork with ⟨_ | code, forked⟩
    · dsimp only
      cases forked.kernel.parentOf with
      | some child => exact .inr (.inr (.inl ⟨child, rfl, rfl⟩))
      | none => exact .inr (.inr (.inr ⟨rfl, rfl⟩))
    · exact .inr (.inl rfl)

/-- In the background the standard output stays open if the log goes there. -/
theorem prepares_enterBackground (m : Machine) :
    m.Prepares (enterBackground (m.destination == .output) m).2 := by
  have hsteps : m.destination = .output →
      ∀ step ∈ detachingSteps (m.destination == .output), step.1 ≠ .redirect .output := by
    intro houtput
    rw [houtput]
    decide
  have hasked : m.Prepares { m with inBackground := true } := ⟨.of_eq rfl, rfl, fun _ ↦ rfl⟩
  have hforked := hasked.call .fork fun _ ↦ by decide
  rcases snd_enterBackground (m.destination == .output) m with
    hthere | hfailed | ⟨child, -, hparent⟩ | ⟨-, hdetached⟩
  · rw [hthere]
    exact .refl m
  · rw [hfailed]
    exact hforked
  · rw [hparent]
    exact (hforked.log _ (by simp)).write _ _
  · rw [hdetached]
    have hcleared := hforked.note (.called .clearFileMask none) rfl rfl
    refine hcleared.trans (prepares_callInTurn _ _ fun houtput ↦ hsteps ?_)
    exact hcleared.destination.symm.trans houtput

theorem Machine.logAll_of_errorOutput (m : Machine) (records : List Record)
    (h : m.destination = .errorOutput) :
    (m.logAll records).destination = .errorOutput ∧ (m.logAll records).tree = m.tree ∧
      (m.logAll records).outlets.output = m.outlets.output := by
  induction records generalizing m with
  | nil => exact ⟨h, rfl, rfl⟩
  | cons record records ih =>
    have hlog : (m.log record).destination = .errorOutput ∧ (m.log record).tree = m.tree ∧
        (m.log record).outlets.output = m.outlets.output := by
      unfold log
      dsimp only
      split
      · simp [write, note, h, tree, Log.Outlets.write]
      · exact ⟨h, rfl, rfl⟩
    obtain ⟨hdestination, htree, houtput⟩ := ih (m.log record) hlog.1
    exact ⟨hdestination, htree.trans hlog.2.1, houtput.trans hlog.2.2⟩

/-- The log goes to a file now, or to the standard output, which is as open as before. -/
structure Machine.HasOpened (m m' : Machine) : Prop where
  journals : m.Journals [] [] m'
  destination : (m'.destination = .output ∧
      m'.outlets.output.isCutOff = m.outlets.output.isCutOff) ∨
    ∃ location, m'.destination = .file location

theorem Machine.HasOpened.of_prepares {m m' m'' : Machine} (h : m.HasOpened m')
    (h' : m'.Prepares m'') : m.HasOpened m'' := by
  refine ⟨h.journals.trans h'.journals, ?_⟩
  rcases h.destination with ⟨houtput, hcut⟩ | ⟨location, hfile⟩
  · exact .inl ⟨h'.destination.trans houtput, (h'.output houtput).trans hcut⟩
  · exact .inr ⟨location, h'.destination.trans hfile⟩

/-- What has been logged to the error output before does not matter. -/
theorem Machine.HasOpened.of_logAll {m m' : Machine} (records : List Record)
    (hdestination : m.destination = .errorOutput) (hrecords : FromOthers records)
    (h : (m.logAll records).HasOpened m') : m.HasOpened m' := by
  have hquiet := isQuiet_of_fromOthers records hrecords
  have hlogged := ((Machine.Tells.refl m).logAll records hquiet).journals
  obtain ⟨-, -, houtput⟩ := m.logAll_of_errorOutput records hdestination
  have hdestination' := h.destination
  rw [houtput] at hdestination'
  exact ⟨hlogged.trans h.journals, hdestination'⟩

namespace Stage

theorem hasOpened_openLog (settings : Settings) (m : Machine) :
    m.HasOpened (openLog settings m) := by
  have hready (base : Machine) (h : m.HasOpened base) (message : String) :
      m.HasOpened (base.log ⟨.info, .daemon, message⟩) :=
    h.of_prepares ((Machine.Prepares.refl base).log _ (by simp))
  have houtput (base : Machine) (hjournal : base.journal = m.journal)
      (hcut : base.outlets.output.isCutOff = m.outlets.output.isCutOff) (message : String) :
      m.HasOpened ({ base with destination := .output }.log ⟨.info, .daemon, message⟩) :=
    hready { base with destination := .output } ⟨.of_eq hjournal, .inl ⟨rfl, hcut⟩⟩ message
  unfold openLog
  dsimp only
  split
  · split
    · rename_i location tree hopen
      have hfile : m.HasOpened { m.withTree tree with destination := .file location } :=
        ⟨.of_eq rfl, .inr ⟨location, rfl⟩⟩
      exact hready _ (hfile.of_prepares ((Machine.Prepares.refl _).write _ _)) _
    · exact houtput (m.printError _) rfl rfl _
  · exact houtput m rfl rfl _

end Stage

/-! ## Stages -/

namespace Stage

theorem bind_eq_ok_iff {α β : Type} (x : Stage α) (f : α → Stage β) (m m' : Machine) (b : β) :
    (x >>= f).run m = .ok b m' ↔
      ∃ a reached, x.run m = .ok a reached ∧ (f a).run reached = .ok b m' := by
  change EStateM.bind x f m = _ ↔ ∃ a reached, x m = _ ∧ f a reached = _
  unfold EStateM.bind
  cases x m with
  | ok a reached =>
    refine ⟨fun h ↦ ⟨a, reached, rfl, h⟩, ?_⟩
    rintro ⟨a', reached', h, hf⟩
    cases h
    exact hf
  | error halt reached =>
    refine ⟨nofun, ?_⟩
    rintro ⟨a', reached', h, hf⟩
    cases h

theorem settle_eq_ok {ε α : Type} (halt : ε → Halt) (result : Except ε α) (m m' : Machine)
    (value : α) (h : (settle halt result).run m = .ok value m') :
    result = .ok value ∧ m' = m := by
  cases result with
  | ok found =>
    cases h
    exact ⟨rfl, rfl⟩
  | error cause => cases h

theorem step_eq_ok {ε α : Type} (halt : ε → Halt)
    (run : Machine → Except ε α × Machine) (m m' : Machine) (value : α)
    (h : (step halt run).run m = .ok value m') : run m = (.ok value, m') := by
  unfold step at h
  simp only [bind_eq_ok_iff] at h
  obtain ⟨_, _, ⟨⟩, _, _, ⟨⟩, hsettle⟩ := h
  obtain ⟨hresult, rfl⟩ := settle_eq_ok _ _ _ _ _ hsettle
  exact Prod.ext hresult rfl

theorem call_eq_ok (failure : SystemError → Failure) (c : SystemCall) (m m' : Machine)
    (h : (call failure c).run m = .ok () m') : m' = (m.call c).2 := by
  have hstep := step_eq_ok _ _ _ _ _ h
  split at hstep
  · rename_i hcall
    rw [hcall]
    exact (congrArg Prod.snd hstep).symm
  · cases hstep

theorem requireRoot_eq_ok (m m' : Machine) (h : requireRoot.run m = .ok () m') : m' = m := by
  unfold requireRoot at h
  simp only [bind_eq_ok_iff] at h
  obtain ⟨_, _, ⟨⟩, hcheck⟩ := h
  split at hcheck
  · cases hcheck
    rfl
  · cases hcheck

theorem fromOthers_loading (tree : FileTree) (path : Option String) :
    FromOthers (Configuration.load tree path).records := by
  have hfile (path : String) : FromOthers (Configuration.loadFile tree path).records := by
    unfold Configuration.loadFile
    split
    · exact Log.fromOthers_nil
    · intro record hrecord
      obtain ⟨block, -, hblock⟩ := List.mem_flatMap.1 hrecord
      unfold Configuration.blockRecords at hblock
      split at hblock
      · cases hblock
      · obtain ⟨pair, -, rfl⟩ := List.mem_map.1 hblock
        simp
  unfold Configuration.load
  split
  · split
    · exact hfile _
    · exact Log.fromOthers_nil
  · split
    · exact hfile _
    · simp

theorem loadSettings_eq_ok (options : Options) (m m' : Machine) (settings : Settings)
    (h : (loadSettings options).run m = .ok settings m') :
    ∃ records, FromOthers records ∧ m' = m.logAll records := by
  unfold loadSettings at h
  simp only [bind_eq_ok_iff] at h
  obtain ⟨_, _, ⟨⟩, _, _, ⟨⟩, config, _, hconfig, _, _, hsettings, _, _, ⟨⟩, ⟨⟩⟩ := h
  obtain ⟨-, rfl⟩ := settle_eq_ok _ _ _ _ _ hconfig
  obtain ⟨-, rfl⟩ := settle_eq_ok _ _ _ _ _ hsettings
  refine ⟨(Configuration.load m.tree options.config).records ++
    [⟨.debug, .daemon, s!"Effective settings: {settings.text}"⟩], ?_, ?_⟩
  · simp [fromOthers_loading]
  · rw [Machine.logAll_append]
    rfl

theorem startEngine_eq_ok (settings : Settings) (identities : Identities) (m m' : Machine)
    (engine : Engine) (h : (startEngine settings identities).run m = .ok engine m') :
    ∃ records root rules, FromOthers records ∧ m' = m.logAll records ∧
      (Engine.readRulesFile ⟨settings.rulesFile, settings.cgroupRoot, identities, none, none⟩
        m.tree).result = .ok rules ∧
      engine = ⟨settings.rulesFile, settings.cgroupRoot, identities, some root, some rules⟩ := by
  unfold startEngine at h
  simp only [bind_eq_ok_iff] at h
  obtain ⟨_, _, ⟨⟩, _, _, ⟨⟩, _, _, hinit, _, _, ⟨⟩, _, _, hload, ⟨⟩⟩ := h
  obtain ⟨hstarted, rfl⟩ := settle_eq_ok _ _ _ _ _ hinit
  obtain ⟨hloaded, rfl⟩ := settle_eq_ok _ _ _ _ _ hload
  obtain ⟨root, hrooted⟩ := Engine.init_eq_ok _ _ _ hstarted
  obtain ⟨rules, hrules⟩ := Engine.load_eq_ok _ _ _ hloaded
  refine ⟨_, root, rules,
    (Log.fromOthers_append _ _).2 ⟨Engine.fromOthers_init _ _, Engine.fromOthers_load _ _⟩,
    (m.logAll_append _ _).symm, ?_, ?_⟩
  · rw [hrooted] at hrules
    exact hrules
  · rw [Engine.load_of_ok _ _ _ hrules, hrooted]

theorem daemonize_eq_ok (m m' : Machine) (h : daemonize.run m = .ok () m') : m.Prepares m' := by
  unfold daemonize at h
  simp only [bind_eq_ok_iff] at h
  obtain ⟨_, _, ⟨⟩, continuation, reached, hstep, hcontinuation⟩ := h
  have hbackground := prepares_enterBackground m
  rw [step_eq_ok _ _ _ _ _ hstep] at hbackground
  cases continuation with
  | goesOn =>
    cases hcontinuation
    exact hbackground
  | isParent => cases hcontinuation

end Stage

namespace Connector

/-- Asking for a larger queue takes one call, and besides that only logs. -/
theorem requestQueue_eq (size : Nat) (m : Machine) :
    ∃ records, FromOthers records ∧
      requestQueue size m = (m.call (.setReceiveQueue size)).2.logAll records := by
  unfold requestQueue
  rcases m.call (.setReceiveQueue size) with ⟨_ | code, m'⟩
  · exact ⟨[], Log.fromOthers_nil, rfl⟩
  · exact ⟨_, fromOthers_channel _ _, rfl⟩

theorem tells_requestQueue (size : Nat) (m : Machine) : m.Tells [] [] [] (requestQueue size m) := by
  obtain ⟨records, hrecords, hrequest⟩ := requestQueue_eq size m
  rw [hrequest]
  exact ((Machine.Tells.refl m).call _ fun _ ↦ rfl).logAll records
    (isQuiet_of_fromOthers records hrecords)

/-- The machine that the listen message is sent from. -/
def bound (options : Config.ChannelOptions) (m : Machine) : Machine :=
  let bound := ((m.call .openSocket).2.call (.bindSocket m.kernel.processNumber)).2
  options.socketBuffer.elim bound fun size ↦ requestQueue size bound

theorem tells_bound (options : Config.ChannelOptions) (m : Machine) :
    m.Tells [] [] [] (bound options m) := by
  have hsocket := ((Machine.Tells.refl m).call .openSocket fun _ ↦ rfl).call
    (.bindSocket m.kernel.processNumber) fun _ ↦ rfl
  unfold bound
  cases options.socketBuffer with
  | none => exact hsocket
  | some size => exact hsocket.quietly (tells_requestQueue size _)

theorem snd_subscribe (port : UInt32) (m : Machine) :
    (subscribe port m).2 = ((m.log (channelRecord .debug
      s!"Sending proc connector PROC_CN_MCAST_LISTEN, netlink message len={
        (Netlink.Subscription.listen.message port).length}")).call
      (.send (Netlink.Subscription.listen.message port))).2 := by
  unfold subscribe
  dsimp only
  split
  · rfl
  · split <;> rfl

theorem tells_subscribe (port : UInt32) (m : Machine) :
    m.Tells [] [] [] (subscribe port m).2 := by
  rw [snd_subscribe]
  exact ((Machine.Tells.refl m).log _ (isQuiet_of_target _ (by simp [channelRecord]))).call _
    fun _ ↦ rfl

theorem kernel_bound (options : Config.ChannelOptions) (m : Machine) :
    (bound options m).kernel = m.kernel := by
  unfold bound
  cases options.socketBuffer with
  | none => exact (Machine.kernel_call _ _).trans (m.kernel_call _)
  | some size =>
    obtain ⟨records, -, hrequest⟩ := requestQueue_eq size
      ((m.call .openSocket).2.call (.bindSocket m.kernel.processNumber)).2
    dsimp only [Option.elim_some]
    rw [hrequest, Machine.kernel_logAll, Machine.kernel_call, Machine.kernel_call,
      Machine.kernel_call]

theorem kernel_subscribe (port : UInt32) (m : Machine) :
    (subscribe port m).2.kernel = m.kernel := by
  rw [snd_subscribe, Machine.kernel_call, Machine.kernel_log]

/-- How far listening goes: the socket is refused, or cannot be bound, or the listen message has
been sent, which may not have been enough. -/
inductive Listens (options : Config.ChannelOptions) (m : Machine) :
    Except ChannelError Unit × Machine → Prop where
  | unavailable (cause : ChannelError) : Listens options m (.error cause, (m.call .openSocket).2)
  | unbound (cause : ChannelError) : Listens options m
      (.error cause, ((m.call .openSocket).2.call (.bindSocket m.kernel.processNumber)).2)
  | refused (cause : ChannelError) : Listens options m
      (.error cause, (subscribe m.kernel.processNumber (bound options m)).2)
  | listening (h : (subscribe m.kernel.processNumber (bound options m)).1 = .ok ()) :
    Listens options m (.ok (),
      (subscribe m.kernel.processNumber (bound options m)).2.log (channelRecord .info
        s!"Listening for process events on netlink port {m.kernel.processNumber}"))

theorem listens_listen (options : Config.ChannelOptions) (m : Machine) :
    Listens options m (listen options m) := by
  have hrefused (cause : ChannelError) : Listens options m
      (.error cause, (subscribe m.kernel.processNumber (bound options m)).2) := .refused cause
  unfold listen
  dsimp only
  split
  · exact .unavailable _
  split
  · exact .unbound _
  split <;> rename_i hsubscribe <;>
    change subscribe m.kernel.processNumber (bound options m) = _ at hsubscribe
  · rw [hsubscribe] at hrefused
    exact hrefused _
  split
  · rw [hsubscribe] at hrefused
    exact hrefused _
  · have hlistening : Listens options m _ := .listening (congrArg Prod.fst hsubscribe)
    rw [hsubscribe] at hlistening
    exact hlistening

theorem kernel_listen (options : Config.ChannelOptions) (m : Machine) :
    (listen options m).2.kernel = m.kernel := by
  have hsubscribed := (kernel_subscribe m.kernel.processNumber _).trans (kernel_bound options m)
  have hlistens := listens_listen options m
  generalize listen options m = listened at hlistens
  cases hlistens with
  | unavailable cause => exact m.kernel_call _
  | unbound cause => exact (Machine.kernel_call _ _).trans (m.kernel_call _)
  | refused cause => exact hsubscribed
  | listening hsent => exact (Machine.kernel_log _ _).trans hsubscribed

/-- Opening does nothing but to listen, and it gives a connector unless listening fails or the
receive buffer cannot be had. -/
theorem openFor_eq (options : Config.ChannelOptions) (m : Machine) :
    let size := max options.receiveBuffer Config.Settings.minReceiveBuffer
    openFor options m =
      (match (listen options m).1, m.kernel.crash? size with
        | .error cause, _ => .error (.error cause)
        | .ok _, some crash => .error (.crash crash)
        | .ok _, none => .ok ⟨m.kernel.processNumber, size, 0, true⟩,
        (listen options m).2) := by
  have hkernel := kernel_listen options m
  unfold openFor
  rcases hlistened : listen options m with ⟨cause | listening, reached⟩
  · rfl
  · rw [hlistened] at hkernel
    dsimp only at hkernel ⊢
    rw [hkernel]
    cases m.kernel.crash? (max options.receiveBuffer Config.Settings.minReceiveBuffer) <;> rfl

theorem snd_openFor (options : Config.ChannelOptions) (m : Machine) :
    (openFor options m).2 = (listen options m).2 :=
  congrArg Prod.snd (openFor_eq options m)

/-- What a connector that is opened is like, and what opening it has gone through. -/
theorem eq_of_openFor (options : Config.ChannelOptions) (m m' : Machine) (connector : Connector)
    (h : openFor options m = (.ok connector, m')) :
    connector = ⟨m.kernel.processNumber,
        max options.receiveBuffer Config.Settings.minReceiveBuffer, 0, true⟩ ∧
      m' = (subscribe m.kernel.processNumber (bound options m)).2.log (channelRecord .info
        s!"Listening for process events on netlink port {m.kernel.processNumber}") := by
  have hlistens := listens_listen options m
  rw [openFor_eq] at h
  obtain ⟨hconnector, rfl⟩ := Prod.mk.inj h
  generalize listen options m = listened at hlistens hconnector
  cases hlistens with
  | unavailable cause | unbound cause | refused cause => cases hconnector
  | listening hsent =>
    dsimp only at hconnector
    split at hconnector
    · cases hconnector
    · cases hconnector
    · exact ⟨(Except.ok.inj hconnector).symm, rfl⟩

theorem openFor_eq_ok (options : Config.ChannelOptions) (m m' : Machine) (connector : Connector)
    (h : openFor options m = (.ok connector, m')) :
    connector.isOpen = true ∧ m.Tells [] [] [] m' := by
  obtain ⟨rfl, rfl⟩ := eq_of_openFor options m m' connector h
  exact ⟨rfl, ((tells_bound options m).quietly (tells_subscribe _ _)).log _
    (isQuiet_of_target _ (by simp [channelRecord]))⟩

end Connector

/-! ## The whole start -/

namespace Stage

/-- The stages behind the last one that may be left out. -/
def takeUp (settings : Settings) (engine : Engine) : Stage (Settings × Engine × Connector) := do
  let m ← get
  log .info s!"Proceeding with PID {m.kernel.processNumber}"
  call .signals .startEventLoop
  call .signals .handleSignals
  modify (listRules engine)
  let connector ← step .ofOpenFailure (Connector.openFor settings.channel)
  log .debug s!"Subscribed to process events as netlink port {connector.port}"
  return (settings, engine, connector)

theorem startUp_eq (options : Options) (identities : Identities) :
    startUp options identities = (do
      log .trace s!"cgrulesd options: {Config.optionsText options}"
      requireRoot
      let settings ← loadSettings options
      let engine ← startEngine settings identities
      modify (openLog settings)
      if settings.daemonize then daemonize
      takeUp settings engine) := rfl

theorem takeUp_eq_ok (settings settings' : Settings) (engine engine' : Engine) (m m' : Machine)
    (connector : Connector)
    (h : (takeUp settings engine).run m = .ok (settings', engine', connector) m') :
    settings' = settings ∧ engine' = engine ∧ connector.isOpen = true ∧
      ∃ opened, m.Prepares opened ∧
        opened.Tells [] [(0, listingText 0 engine.listing)] [] m' := by
  unfold takeUp at h
  simp only [bind_eq_ok_iff] at h
  obtain ⟨_, _, ⟨⟩, _, _, ⟨⟩, _, looping, hloop, _, opened, hsignals, _, _, ⟨⟩, _, subscribed,
    hopen, _, _, ⟨⟩, ⟨⟩⟩ := h
  have hlooping := call_eq_ok _ _ _ _ hloop
  have hopened := call_eq_ok _ _ _ _ hsignals
  obtain ⟨hisOpen, hsubscribed⟩ :=
    Connector.openFor_eq_ok _ _ _ _ (step_eq_ok _ _ _ _ _ hopen)
  refine ⟨rfl, rfl, hisOpen, opened, ?_, ?_⟩
  · rw [hopened, hlooping]
    exact (((Machine.Prepares.refl m).log _ (by simp)).call _ fun _ ↦ by simp).call _
      fun _ ↦ by simp
  · have hlisted := ((Machine.Tells.refl opened).list 0 (listingText 0 engine.listing)).flush
    exact (hlisted.quietly hsubscribed).log _ (isQuiet_of_target _ (by simp))

/-- The rules that a start that succeeds lists are those in the cache, and they were read before
anything had been changed. -/
theorem startUp_eq_ok (options : Options) (identities : Identities) (m m' : Machine)
    (settings : Settings) (engine : Engine) (connector : Connector)
    (hdestination : m.destination = .errorOutput)
    (h : (startUp options identities).run m = .ok (settings, engine, connector) m') :
    ∃ root rules,
      engine = ⟨settings.rulesFile, settings.cgroupRoot, identities, some root, some rules⟩ ∧
      (Engine.readRulesFile ⟨settings.rulesFile, settings.cgroupRoot, identities, none, none⟩
        m.tree).result = .ok rules ∧
      connector.isOpen = true ∧
      ∃ opened, m.HasOpened opened ∧ opened.Tells [] [(0, listingText 0 rules.listing)] [] m' := by
  rw [startUp_eq] at h
  simp only [bind_eq_ok_iff] at h
  obtain ⟨_, _, ⟨⟩, _, _, hroot, settings', _, hsettings, engine', _, hengine, _, _, ⟨⟩, hrest⟩ := h
  obtain rfl := requireRoot_eq_ok _ _ hroot
  obtain ⟨records, hrecords, rfl⟩ := loadSettings_eq_ok _ _ _ _ hsettings
  obtain ⟨records', root, rules, hrecords', rfl, hread, rfl⟩ := startEngine_eq_ok _ _ _ _ _ hengine
  let logged : List Record :=
    [⟨.trace, .daemon, s!"cgrulesd options: {Config.optionsText options}"⟩] ++ records
  have hlogged : FromOthers logged := by simp [logged, hrecords]
  have htree : (m.logAll logged).tree = m.tree := (m.logAll_of_errorOutput logged hdestination).2.1
  have hopened : m.HasOpened (openLog settings' ((m.logAll logged).logAll records')) := by
    have hall : FromOthers (logged ++ records') :=
      (Log.fromOthers_append _ _).2 ⟨hlogged, hrecords'⟩
    rw [← m.logAll_append]
    exact .of_logAll _ hdestination hall (hasOpened_openLog settings' _)
  obtain ⟨started, hstarted, htake⟩ : ∃ started, m.HasOpened started ∧
      (takeUp settings' ⟨settings'.rulesFile, settings'.cgroupRoot, identities, some root,
        some rules⟩).run started = .ok (settings, engine, connector) m' := by
    split at hrest
    · obtain ⟨_, started, hdaemonize, htake⟩ := (bind_eq_ok_iff _ _ _ _ _).1 hrest
      exact ⟨started, hopened.of_prepares (daemonize_eq_ok _ _ hdaemonize), htake⟩
    · exact ⟨_, hopened, hrest⟩
  obtain ⟨rfl, rfl, hisOpen, opened, hprepares, htells⟩ := takeUp_eq_ok _ _ _ _ _ _ _ htake
  exact ⟨root, rules, rfl, htree ▸ hread, hisOpen, opened, hstarted.of_prepares hprepares, htells⟩

end Stage

/-- A daemon that has started runs its controller and reports how that ended. -/
theorem runDaemon_of_startUp (options : Options) (environment : Environment)
    (incidents : List Incident) (m m' : Machine) (settings : Settings) (engine : Engine)
    (connector : Connector)
    (h : (Stage.startUp options environment.identities).run m =
      .ok (settings, engine, connector) m') :
    let controller : Controller Engine :=
      ⟨m', ⟨settings.processRoot, settings.useCache, engine, {}⟩, connector, 0, .running⟩
    let ran := controller.run incidents
    runDaemon options environment incidents m =
      finish environment (ran.1.mapError .channelLost) ran.2.machine := by
  simp only [runDaemon, h]

end Daemon

end Regroup
