import Regroup.Proofs.Daemon.Order
import Regroup.Proofs.Daemon.StartUp
import Regroup.Proofs.Engine.PartialMove

/-!
# What a start comes to

Which stage of a start fails first, and for what cause, is settled by what the start is given: its
options, the identities, the failures of the kernel, and the files as they are at the beginning. The
log that the earlier stages write does not come into it, and neither does it matter whether the log
file can be opened, except that the standard output is then kept for the log. So it is settled, too,
whether the last stage crashes.
-/

namespace Regroup.Daemon

open CommandLine (Options)
open Config (ConfigError Configuration Settings)
open Log (Destination Record)
open Netlink (Subscription)

/-- What a start is given. -/
structure Start where
  options : Options
  identities : Identities
  kernel : Kernel
  tree : FileTree

/-- Succeeds unless there is a failure. -/
def unlessFails {ε : Type} (failure? : Option ε) : Except ε Unit :=
  match failure? with
  | none => .ok ()
  | some failure => .error failure

/-- Why the null device cannot be opened. -/
def nullDeviceFailure? (tree : FileTree) : Option Int :=
  match tree.openForWriting Machine.nullDevicePath with
  | .ok _ => none
  | .error cause => cause.code?

namespace Start

variable (start : Start)

def port : UInt32 :=
  start.kernel.processNumber

def settings : Except ConfigError Settings := do
  let config ← (Configuration.load start.tree start.options.config).result
  Settings.resolve config start.options

/-- The engine with its root settled and its rules loaded. -/
def engine (settings : Settings) : Except RulesError Engine := do
  let rooted := Engine.init
    ⟨settings.rulesFile, settings.cgroupRoot, start.identities, none, none⟩ start.tree
  rooted.result
  let loaded := rooted.state.load start.tree
  loaded.result
  return loaded.state

/-- Where the log goes once it is opened, and the files as they are then. -/
def log (settings : Settings) : Destination × FileTree :=
  if settings.logging then
    match start.tree.openForAppending settings.logFile with
    | .ok (location, tree) => (.file location, tree)
    | .error _ => (.output, start.tree)
  else (.output, start.tree)

/-- The files as the background sees them, from the root directory. -/
def detached (settings : Settings) : FileTree :=
  { (start.log settings).2 with workingDirectory := [] }

/-- Why a step into the background fails. The null device is opened from the root directory. -/
def stepFailure? (settings : Settings) (step : SystemCall × String) : Option BackgroundError :=
  let obstacle? :=
    if step.1 = .openNullDevice then nullDeviceFailure? (start.detached settings) else none
  ((start.kernel.failure step.1).or obstacle?).map (BackgroundError.mk step.2)

def background (settings : Settings) : Except BackgroundError Unit :=
  if settings.daemonize then
    let steps := (.fork, "fork") :: detachingSteps ((start.log settings).1 == .output)
    unlessFails (steps.findSome? (start.stepFailure? settings))
  else .ok ()

def signals : Except SystemError Unit := do
  unlessFails ((start.kernel.failure .startEventLoop).map .os)
  unlessFails ((start.kernel.failure .handleSignals).map .os)

/-- The listen message has to leave as a whole. -/
def subscription : Except ChannelError Unit := do
  let message := Subscription.listen.message start.port
  let sent := start.kernel.sentBytes.getD message.length
  unlessFails ((start.kernel.failure (.send message)).map fun code ↦
    .subscribeFailed "control message rejected" (some (.os (Errno.recognized code))))
  unlessFails (if sent = message.length then none
    else some (.subscribeFailed s!"short send of {sent}/{message.length} bytes" none))

/-- A socket is opened and bound, the listen message is sent, and the event loop takes the
socket. -/
def connection : Except ChannelError Unit := do
  unlessFails ((start.kernel.failure .openSocket).map fun code ↦ .unavailable (.os code))
  unlessFails ((start.kernel.failure (.bindSocket start.port)).map fun code ↦
    .unavailable (.os (Errno.recognized code)))
  start.subscription
  unlessFails (start.kernel.watchFailure.map fun code ↦ .unavailable (.os code))

/-- The receive buffer that the settings come to. -/
def bufferSize (settings : Settings) : Nat :=
  max settings.channel.receiveBuffer Settings.minReceiveBuffer

def channel (settings : Settings) : Except OpenFailure Connector := do
  start.connection.mapError .error
  unlessFails ((start.kernel.crash? (bufferSize settings)).map .crash)
  return ⟨start.port, bufferSize settings, 0, true⟩

/-- The stages in their order, up to the first that fails. -/
def outcome : Except Halt (Settings × Engine × Connector) := do
  unlessFails (if start.kernel.effectiveUser = 0 then none else some (.failed .notRoot))
  let settings ← start.settings.mapError (.failed ∘ .configuration)
  let engine ← (start.engine settings).mapError (.failed ∘ .engine)
  (start.background settings).mapError (.failed ∘ .background)
  start.signals.mapError (.failed ∘ .signals)
  let connector ← (start.channel settings).mapError .ofOpenFailure
  return (settings, engine, connector)

end Start

/-! ## Stages that come to an outcome -/

namespace Stage

/-- How a stage ends that comes to an outcome. -/
def ending {α : Type} (outcome : Except Halt α) (m : Machine) : EStateM.Result Halt Machine α :=
  match outcome with
  | .ok value => .ok value m
  | .error halt => .error halt m

/-- The stage comes to the outcome, and what is said of a machine that it leaves holds. -/
def ComesTo {α : Type} (x : Stage α) (m : Machine) (outcome : Except Halt α)
    (returned : α → Machine → Prop) (halted : Halt → Machine → Prop) : Prop :=
  ∃ m', x.run m = ending outcome m' ∧
    match outcome with
    | .ok value => returned value m'
    | .error halt => halted halt m'

section
variable {α β : Type} {x : Stage α} {f : α → Stage β} {m m' : Machine}
variable {returned : α → Machine → Prop} {returned' : β → Machine → Prop}
variable {halted : Halt → Machine → Prop}

/-- Behind a stage that fails nothing more is done. -/
theorem ComesTo.bind_of_error {halt : Halt}
    (hx : x.ComesTo m (.error halt) returned halted) :
    (x >>= f).ComesTo m (.error halt) returned' halted := by
  obtain ⟨reached, hrun, hreached⟩ := hx
  refine ⟨reached, ?_, hreached⟩
  change EStateM.bind x f m = _
  rw [EStateM.bind, show x m = _ from hrun]
  rfl

/-- Stages one behind the other come to the outcomes one behind the other. -/
theorem ComesTo.bind {outcome : Except Halt α} {next : α → Except Halt β}
    (hx : x.ComesTo m outcome returned halted)
    (hf : ∀ value reached, outcome = .ok value → returned value reached →
      (f value).ComesTo reached (next value) returned' halted) :
    (x >>= f).ComesTo m (outcome >>= next) returned' halted := by
  cases outcome with
  | error halt => exact hx.bind_of_error
  | ok value =>
    obtain ⟨reached, hrun, hreached⟩ := hx
    obtain ⟨last, hlast, hfinal⟩ := hf value reached rfl hreached
    refine ⟨last, ?_, hfinal⟩
    change EStateM.bind x f m = _
    rw [EStateM.bind, show x m = _ from hrun]
    exact hlast

/-- A stage that just changes the machine goes on with the next. -/
theorem ComesTo.of_step {outcome : Except Halt β} {value : α} (hx : x.run m = .ok value m')
    (hf : (f value).ComesTo m' outcome returned' halted) :
    (x >>= f).ComesTo m outcome returned' halted := by
  obtain ⟨last, hlast, hfinal⟩ := hf
  refine ⟨last, ?_, hfinal⟩
  change EStateM.bind x f m = _
  rw [EStateM.bind, show x m = _ from hx]
  exact hlast

theorem comesTo_pure {value : α} (h : returned value m) :
    (pure value : Stage α).ComesTo m (.ok value) returned halted :=
  ⟨m, rfl, h⟩

end

theorem run_settle {ε α : Type} (halt : ε → Halt) (result : Except ε α) (m : Machine) :
    (settle halt result).run m = ending (result.mapError halt) m := by
  cases result <;> rfl

theorem run_step {ε α : Type} (halt : ε → Halt) (run : Machine → Except ε α × Machine)
    (m : Machine) : (step halt run).run m = ending ((run m).1.mapError halt) (run m).2 := by
  rw [← run_settle]
  rfl

theorem run_call (failure : SystemError → Failure) (c : SystemCall) (m : Machine) :
    (call failure c).run m =
      ending ((unlessFails ((m.call c).1.map .os)).mapError (.failed ∘ failure)) (m.call c).2 := by
  unfold call
  rw [run_step]
  rcases m.call c with ⟨_ | code, m'⟩ <;> rfl

end Stage

namespace Start

variable (start : Start)

/-- Nothing has been done so far but to log to the error output. -/
structure IsEarly (m : Machine) : Prop where
  kernel : m.kernel = start.kernel
  tree : m.tree = start.tree
  destination : m.destination = .errorOutput
  inBackground : m.inBackground = false
  output : m.outlets.output = {}
  journal : ∀ effect ∈ m.journal, ∃ record, effect = .logged record

variable {start} {m : Machine}

theorem IsEarly.log (h : start.IsEarly m) (record : Record) : start.IsEarly (m.log record) := by
  have hjournal : ∀ effect ∈ m.journal ++ [.logged record], ∃ record, effect = .logged record :=
    List.forall_mem_append.2 ⟨h.journal, List.forall_mem_singleton.2 ⟨record, rfl⟩⟩
  have hdestination := h.destination
  unfold Machine.log
  dsimp only
  split
  · refine ⟨h.kernel, ?_, hdestination, h.inBackground, ?_, hjournal⟩
    · simpa [Machine.write, Machine.note, Machine.tree, Log.Outlets.write, hdestination]
        using h.tree
    · simpa [Machine.write, Machine.note, Log.Outlets.write, hdestination] using h.output
  · exact ⟨h.kernel, h.tree, hdestination, h.inBackground, h.output, hjournal⟩

theorem IsEarly.logAll (h : start.IsEarly m) (records : List Record) :
    start.IsEarly (m.logAll records) := by
  induction records generalizing m with
  | nil => exact h
  | cons record records ih => exact ih (h.log record)

/-- What the standard output shows before the log may go there. -/
def banner (start : Start) (settings : Settings) : Bytes :=
  match (start.log settings).1 with
  | .file _ => Text.encode s!"Opened log file: {settings.logFile}\n"
  | _ => []

/-- The log is where it was to go, the effects are in order up to a stage, and the standard output
has received of the log what has come since its opening, if it goes there. -/
structure HasLogged (start : Start) (settings : Settings) (stage : Nat) (m : Machine) : Prop where
  kernel : m.kernel = start.kernel
  destination : m.destination = (start.log settings).1
  isHeard : m.IsHeard
  inOrder : InOrder start.port stage m.journal
  received : ∃ early late : List Effect, m.journal = early ++ late ∧
    (∀ effect ∈ early, ∃ record, effect = .logged record) ∧
    m.outlets.output.content =
      start.banner settings ++ received (start.log settings).1 m.filter late

theorem HasLogged.acts {settings : Settings} {stage stage' : Nat} {allowed : Effect → Prop}
    {m' : Machine} (h : start.HasLogged settings stage m) (hacts : m.Acts allowed m')
    (hstage : stage ≤ stage')
    (hallowed : ∀ effect, allowed effect → effect.BelongsTo start.port stage')
    (hlisting : ∀ listing, allowed (.listed 0 listing) →
      .called .startEventLoop none ∈ m.journal ∧ .called .handleSignals none ∈ m.journal)
    (hsubscription : ∀ failure,
      allowed (.called (.send (Subscription.listen.message start.port)) failure) →
      ∃ listing, .listed 0 listing ∈ m.journal) :
    start.HasLogged settings stage' m' := by
  obtain ⟨effects, hjournal, hall, hreceived⟩ := hacts.effects
  obtain ⟨hheard, hcontent⟩ := hreceived h.isHeard
  obtain ⟨early, late, hsplit, hearly, hbefore⟩ := h.received
  refine ⟨hacts.kernel.trans h.kernel, hacts.destination.trans h.destination, hheard, ?_,
    early, late ++ effects, ?_, hearly, ?_⟩
  · rw [hjournal]
    exact h.inOrder.append hstage (fun effect heffect ↦ hallowed effect (hall effect heffect))
      (fun listing hlisted ↦ hlisting listing (hall _ hlisted))
      (fun failure hsent ↦ hsubscription failure (hall _ hsent))
  · rw [hjournal, hsplit, List.append_assoc]
  · rw [hcontent, hbefore, h.destination, hacts.filter, received_append, List.append_assoc]

/-- Stages other than the sixth neither list the rules nor subscribe. -/
theorem HasLogged.acts_of_ne {settings : Settings} {stage stage' : Nat} {m' : Machine}
    (h : start.HasLogged settings stage m) (hacts : m.Acts (Effect.BelongsTo start.port stage') m')
    (hstage : stage ≤ stage') (hne : stage' ≠ 6) : start.HasLogged settings stage' m' := by
  refine h.acts hacts hstage (fun _ hbelongs ↦ hbelongs) (fun listing hbelongs ↦ ?_)
    (fun failure hbelongs ↦ ?_)
  · exact absurd (hbelongs.stage 6 rfl).symm hne
  · exact absurd (hbelongs.stage 6 (congrArg some (if_pos rfl))).symm hne

theorem HasLogged.log {settings : Settings} {stage : Nat} (h : start.HasLogged settings stage m)
    (record : Record) : start.HasLogged settings stage (m.log record) := by
  have hacts : m.Acts (fun effect ↦ ∃ record, effect = .logged record) (m.log record) :=
    (Machine.Acts.refl m).log record ⟨record, rfl⟩
  refine h.acts hacts (Nat.le_refl stage) ?_ nofun nofun
  rintro effect ⟨logged, rfl⟩
  exact Effect.belongsTo_logged start.port stage logged

/-- What is left behind where a stage fails, or where the last of them crashes. -/
inductive Halts (start : Start) : Halt → Machine → Prop where
  | early {failure : Failure} {m : Machine} (hstage : failure.exitCode ≤ 3)
    (h : start.IsEarly m) : Halts start (.failed failure) m
  | late {failure : Failure} {m : Machine} (settings : Settings)
    (hsettings : start.settings = .ok settings) (hstage : 3 < failure.exitCode)
    (h : start.HasLogged settings failure.exitCode m) : Halts start (.failed failure) m
  | crashed {m : Machine} (crash : Crash) (settings : Settings)
    (hsettings : start.settings = .ok settings) (h : start.HasLogged settings 6 m) :
    Halts start (.crashed crash) m

end Start

namespace Stage

open Start

variable {start : Start} {m : Machine}

/-! ## The early stages -/

theorem comesTo_settle {ε α : Type} {halt : ε → Halt} {result : Except ε α}
    {returned : α → Machine → Prop} {halted : Halt → Machine → Prop}
    (hok : ∀ value, result = .ok value → returned value m)
    (herror : ∀ cause, result = .error cause → halted (halt cause) m) :
    (settle halt result).ComesTo m (result.mapError halt) returned halted := by
  refine ⟨m, run_settle halt result m, ?_⟩
  cases result with
  | ok value => exact hok value rfl
  | error cause => exact herror cause rfl

theorem mapError_bind {ε ε' α β : Type} (halt : ε → ε') (x : Except ε α)
    (f : α → Except ε β) :
    (x >>= f).mapError halt = x.mapError halt >>= fun value ↦ (f value).mapError halt := by
  cases x <;> rfl

theorem run_requireRoot (m : Machine) :
    requireRoot.run m =
      ending (unlessFails (if m.kernel.effectiveUser = 0 then none else some (.failed .notRoot)))
        m := by
  change (if m.kernel.effectiveUser = 0 then pure () else throw (.failed .notRoot) :
    Stage Unit).run m = _
  split <;> rfl

theorem comesTo_requireRoot (h : start.IsEarly m) :
    requireRoot.ComesTo m
      (unlessFails (if start.kernel.effectiveUser = 0 then none else some (.failed .notRoot)))
      (fun _ ↦ start.IsEarly) start.Halts := by
  have hrun := run_requireRoot m
  rw [h.kernel] at hrun
  refine ⟨m, hrun, ?_⟩
  by_cases hroot : start.kernel.effectiveUser = 0
  · rw [if_pos hroot]
    exact h
  · rw [if_neg hroot]
    exact .early (by decide) h

theorem comesTo_loadSettings (h : start.IsEarly m) :
    (loadSettings start.options).ComesTo m (start.settings.mapError (.failed ∘ .configuration))
      (fun _ ↦ start.IsEarly) start.Halts := by
  have hlogged := h.logAll (Configuration.load start.tree start.options.config).records
  have hfails (cause : ConfigError) (reached : Machine) (hearly : start.IsEarly reached) :
      start.Halts (.failed (.configuration cause)) reached :=
    .early (by simp [Failure.exitCode]) hearly
  unfold Start.settings
  rw [mapError_bind]
  refine .of_step rfl ?_
  rw [h.tree]
  refine .of_step rfl ?_
  refine .bind (comesTo_settle (fun _ _ ↦ hlogged) fun cause _ ↦ hfails cause _ hlogged)
    fun config reached _ hreached ↦ ?_
  rw [← bind_pure
    ((Settings.resolve config start.options).mapError (Halt.failed ∘ Failure.configuration))]
  refine .bind (comesTo_settle (fun _ _ ↦ hreached) fun cause _ ↦ hfails cause _ hreached)
    fun settings last _ hlast ↦ ?_
  exact .of_step rfl (comesTo_pure (hlast.log _))

theorem comesTo_startEngine (h : start.IsEarly m) (settings : Settings) :
    (startEngine settings start.identities).ComesTo m
      ((start.engine settings).mapError (.failed ∘ .engine)) (fun _ ↦ start.IsEarly)
      start.Halts := by
  have hfails (cause : RulesError) (reached : Machine) (hearly : start.IsEarly reached) :
      start.Halts (.failed (.engine cause)) reached := .early (by simp [Failure.exitCode]) hearly
  unfold Start.engine
  dsimp only
  rw [mapError_bind]
  refine .of_step rfl ?_
  rw [h.tree]
  refine .of_step rfl ?_
  have hrooted := h.logAll (Engine.init
    ⟨settings.rulesFile, settings.cgroupRoot, start.identities, none, none⟩ start.tree).records
  refine .bind (comesTo_settle (fun _ _ ↦ hrooted) fun cause _ ↦ hfails cause _ hrooted)
    fun _ reached _ hreached ↦ ?_
  rw [mapError_bind]
  refine .of_step rfl ?_
  have hloaded := hreached.logAll ((Engine.init
    ⟨settings.rulesFile, settings.cgroupRoot, start.identities, none, none⟩
    start.tree).state.load start.tree).records
  refine .bind (comesTo_settle (fun _ _ ↦ hloaded) fun cause _ ↦ hfails cause _ hloaded)
    fun _ last _ hlast ↦ ?_
  exact comesTo_pure hlast

theorem sameShape_foldl_loggedTree (destination : Destination) (texts : List Bytes)
    (tree : FileTree) :
    FileTree.SameShape tree (texts.foldl (loggedTree destination) tree) := by
  induction texts generalizing tree with
  | nil => exact .refl tree
  | cons text texts ih =>
    refine .trans ?_ (ih (loggedTree destination tree text))
    unfold loggedTree
    split
    · exact tree.sameShape_append _ text
    · exact .refl tree

theorem inBackground_log (m : Machine) (record : Record) :
    (m.log record).inBackground = m.inBackground := by
  unfold Machine.log
  dsimp only
  split <;> rfl

/-- The log is opened where it can be, and all that happens besides is that this is logged. -/
structure HasOpenedLog (start : Start) (settings : Settings) (m : Machine) : Prop where
  logged : start.HasLogged settings 3 m
  inBackground : m.inBackground = false
  shape : FileTree.SameShape (start.log settings).2 m.tree

theorem hasOpenedLog_openLog (h : start.IsEarly m) (settings : Settings) :
    HasOpenedLog start settings (openLog settings m) := by
  have hopened (base : Machine) (hkernel : base.kernel = m.kernel)
      (hbackground : base.inBackground = m.inBackground) (hjournal : base.journal = m.journal)
      (hdestination : base.destination = (start.log settings).1)
      (htree : base.tree = (start.log settings).2)
      (houtput : base.outlets.output = ⟨start.banner settings, false⟩) (message : String) :
      HasOpenedLog start settings (base.log ⟨.info, .daemon, message⟩) := by
    have hbase : start.HasLogged settings 3 base := by
      refine ⟨hkernel.trans h.kernel, hdestination, fun _ ↦ by rw [houtput], ?_,
        base.journal, [], (List.append_nil _).symm, ?_, ?_⟩
      · rw [hjournal]
        exact .of_logged h.journal
      · rw [hjournal]
        exact h.journal
      · rw [houtput]
        simp [received]
    obtain ⟨texts, hlogged⟩ :=
      ((Machine.OnlyLogs.refl base).log ⟨.info, .daemon, message⟩).tree
    refine ⟨hbase.acts_of_ne ((Machine.Acts.refl base).log _ (Effect.belongsTo_logged _ _ _))
      (Nat.le_refl 3) (by decide), ?_, ?_⟩
    · rw [inBackground_log, hbackground, h.inBackground]
    · rw [hlogged, htree]
      exact sameShape_foldl_loggedTree _ texts _
  unfold openLog
  dsimp only
  split
  · rename_i hlogging
    split
    · rename_i location tree hopen
      have hlog : start.log settings = (.file location, tree) := by
        rw [h.tree] at hopen
        simp only [Start.log, hlogging, if_true, hopen]
      refine hopened ({ m.withTree tree with destination := .file location }.print _)
        rfl rfl rfl ?_ ?_ ?_ _
      · rw [hlog]
        rfl
      · rw [hlog]
        rfl
      · simp [Machine.print, Machine.withTree, Log.Outlets.write, Log.Stream.write, h.output,
          Start.banner, hlog]
    · rename_i cause hopen
      have hlog : start.log settings = (.output, start.tree) := by
        rw [h.tree] at hopen
        simp only [Start.log, hlogging, if_true, hopen]
      refine hopened { m.printError _ with destination := .output } rfl rfl rfl ?_ ?_ ?_ _
      · rw [hlog]
      · rw [hlog]
        exact h.tree
      · simp [Machine.printError, Log.Outlets.write, h.output, Start.banner, hlog]
  · rename_i hlogging
    have hlog : start.log settings = (.output, start.tree) := by
      simp only [Start.log, if_neg hlogging]
    refine hopened { m with destination := .output } rfl rfl rfl ?_ ?_ ?_ _
    · rw [hlog]
    · rw [hlog]
      exact h.tree
    · simp [h.output, Start.banner, hlog]

end Stage

end Regroup.Daemon
