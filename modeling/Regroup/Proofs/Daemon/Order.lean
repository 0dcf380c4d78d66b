import Regroup.Proofs.Daemon.Turns
import Regroup.Proofs.Log.SharedSinks

/-!
# Effects in the order of the stages

The stages of a start that leave effects besides log lines are told by the exit status of their
failures: going into the background is 4, taking over the signals 5, and subscribing to the process
events 6, which begins with the listing of the rules. What the daemon does once it runs is 7. A
journal is in order if no effect comes behind one of a later stage, the rules are listed behind the
signals, the listen message is sent behind that listing, and nothing comes behind the closing of the
log.

What the daemon does from the opening of its log on is told here by the effects that it journals and
by what the standard output receives of them.
-/

namespace Regroup.Daemon

open Connector (Delivery)
open Log (Destination Filter Record)
open Netlink (Subscription)

/-- The stage that makes a call in a process of the given number. -/
def SystemCall.stage (port : UInt32) : SystemCall → Nat
  | fork | clearFileMask | newSession | enterRootDirectory | openNullDevice | redirect _
  | closeNullDevice => 4
  | startEventLoop | handleSignals => 5
  | openSocket | bindSocket _ | setReceiveQueue _ => 6
  | send message => if message = Subscription.listen.message port then 6 else 7

namespace Effect

def stage? (port : UInt32) : Effect → Option Nat
  | called call _ => some (call.stage port)
  | listed generation _ => some (if generation = 0 then 6 else 7)
  | handled _ => some 7
  | logged _ | flushed | closed => none

/-- Whether an effect may come behind the ones before. -/
structure IsDue (port : UInt32) (before : List Effect) (effect : Effect) : Prop where
  unclosed : closed ∉ before
  later : ∀ stage, effect.stage? port = some stage → ∀ earlier ∈ before,
    ∀ stage', earlier.stage? port = some stage' → stage' ≤ stage
  listing : ∀ listing, effect = listed 0 listing →
    called .startEventLoop none ∈ before ∧ called .handleSignals none ∈ before
  subscription : ∀ failure, effect = called (.send (Subscription.listen.message port)) failure →
    ∃ listing, listed 0 listing ∈ before

/-- An effect of the given stage, or of none, that leaves the log open. -/
structure BelongsTo (port : UInt32) (stage : Nat) (effect : Effect) : Prop where
  unclosed : effect ≠ closed
  stage : ∀ stage', effect.stage? port = some stage' → stage' = stage

section
variable (port : UInt32) (stage : Nat)

theorem belongsTo_logged (record : Record) : (logged record).BelongsTo port stage :=
  ⟨nofun, nofun⟩

theorem belongsTo_flushed : flushed.BelongsTo port stage :=
  ⟨nofun, nofun⟩

theorem belongsTo_handled (batch : Bytes) : (handled batch).BelongsTo port 7 :=
  ⟨nofun, fun _ h ↦ (Option.some.inj h).symm⟩

theorem belongsTo_first_listing (listing : String) : (listed 0 listing).BelongsTo port 6 :=
  ⟨nofun, fun _ h ↦ (Option.some.inj h).symm⟩

theorem belongsTo_later_listing (generation : Nat) (listing : String) :
    (listed (generation + 1) listing).BelongsTo port 7 :=
  ⟨nofun, fun _ h ↦ (Option.some.inj h).symm⟩

theorem belongsTo_called (call : SystemCall) (failure : Option Int) :
    (called call failure).BelongsTo port (call.stage port) :=
  ⟨nofun, fun _ h ↦ (Option.some.inj h).symm⟩

end

end Effect

theorem drop_message (subscription : Subscription) (port : UInt32) :
    (subscription.message port).drop 36 = Bytes.ofWord32 subscription.code := by
  unfold Subscription.message Netlink.connectorFrame
  rw [List.append_assoc, List.drop_left' (by simp [Netlink.FrameHeader.size,
    Netlink.ConnectorHeader.size])]
  simp [Netlink.align, Netlink.FrameHeader.size, Netlink.ConnectorHeader.size]

theorem listen_message_ne_ignore_message (port sender : UInt32) :
    Subscription.listen.message port ≠ Subscription.ignore.message sender := by
  intro hsame
  have hcodes := congrArg (List.drop 36) hsame
  rw [drop_message, drop_message] at hcodes
  exact absurd hcodes (by decide)

/-- The ignore message is not taken for a listen message, whoever sends it. -/
theorem stage_send_ignore (port sender : UInt32) :
    (SystemCall.send (Subscription.ignore.message sender)).stage port = 7 :=
  if_neg fun hsame ↦ listen_message_ne_ignore_message port sender hsame.symm

/-- The effects are in order, none of them is of a later stage than the given one, and the log has
not been closed. -/
structure InOrder (port : UInt32) (stage : Nat) (effects : List Effect) : Prop where
  due : ∀ before effect after, effects = before ++ effect :: after → effect.IsDue port before
  unclosed : .closed ∉ effects
  reached : ∀ effect ∈ effects, ∀ stage', effect.stage? port = some stage' → stage' ≤ stage

namespace InOrder

variable {port : UInt32} {stage stage' : Nat} {effects : List Effect}

theorem nil (port : UInt32) (stage : Nat) : InOrder port stage [] :=
  ⟨fun before _ _ h ↦ absurd h.symm (by simp), List.not_mem_nil, List.forall_mem_nil _⟩

theorem mono (h : InOrder port stage effects) (hle : stage ≤ stage') :
    InOrder port stage' effects :=
  ⟨h.due, h.unclosed, fun effect heffect found hfound ↦
    Nat.le_trans (h.reached effect heffect found hfound) hle⟩

theorem concat (h : InOrder port stage effects) (effect : Effect) (hstage : stage ≤ stage')
    (hbelongs : effect.BelongsTo port stage')
    (hlisting : ∀ listing, effect = .listed 0 listing →
      .called .startEventLoop none ∈ effects ∧ .called .handleSignals none ∈ effects)
    (hsubscription : ∀ failure,
      effect = .called (.send (Subscription.listen.message port)) failure →
      ∃ listing, .listed 0 listing ∈ effects) :
    InOrder port stage' (effects ++ [effect]) := by
  have hreached := (h.mono hstage).reached
  have hdue : effect.IsDue port effects := by
    refine ⟨h.unclosed, fun found hfound earlier hearlier found' hfound' ↦ ?_, hlisting,
      hsubscription⟩
    rw [hbelongs.stage found hfound]
    exact hreached earlier hearlier found' hfound'
  refine ⟨fun before other after hsplit ↦ ?_, ?_, ?_⟩
  · rcases List.eq_nil_or_concat after with rfl | ⟨after, last, rfl⟩
    · obtain ⟨rfl, hother⟩ := List.append_inj' hsplit rfl
      obtain rfl := List.singleton_inj.1 hother
      exact hdue
    · rw [List.concat_eq_append, ← List.cons_append, ← List.append_assoc] at hsplit
      exact h.due before other after (List.append_inj' hsplit rfl).1
  · rw [List.mem_append, List.mem_singleton, not_or]
    exact ⟨h.unclosed, fun hclosed ↦ hbelongs.unclosed hclosed.symm⟩
  · refine List.forall_mem_append.2 ⟨hreached, List.forall_mem_singleton.2 fun found hfound ↦ ?_⟩
    exact Nat.le_of_eq (hbelongs.stage found hfound)

/-- Effects of one stage may follow, the listing only behind the signals and the listen message only
behind the listing. -/
theorem append {later : List Effect} (h : InOrder port stage effects) (hstage : stage ≤ stage')
    (hlater : ∀ effect ∈ later, effect.BelongsTo port stage')
    (hlisting : ∀ listing, .listed 0 listing ∈ later →
      .called .startEventLoop none ∈ effects ∧ .called .handleSignals none ∈ effects)
    (hsubscription : ∀ failure,
      .called (.send (Subscription.listen.message port)) failure ∈ later →
      ∃ listing, .listed 0 listing ∈ effects) :
    InOrder port stage' (effects ++ later) := by
  induction later generalizing stage effects with
  | nil =>
    rw [List.append_nil]
    exact h.mono hstage
  | cons effect later ih =>
    obtain ⟨hbelongs, hlater⟩ := List.forall_mem_cons.1 hlater
    have hnext := h.concat effect hstage hbelongs
      (fun listing heq ↦ hlisting listing (by simp [heq]))
      (fun failure heq ↦ hsubscription failure (by simp [heq]))
    rw [List.append_cons]
    refine ih hnext (Nat.le_refl _) hlater (fun listing hlisted ↦ ?_) (fun failure hsent ↦ ?_)
    · obtain ⟨hloop, hsignals⟩ := hlisting listing (List.mem_cons_of_mem _ hlisted)
      exact ⟨List.mem_append_left _ hloop, List.mem_append_left _ hsignals⟩
    · obtain ⟨listing, hlisted⟩ := hsubscription failure (List.mem_cons_of_mem _ hsent)
      exact ⟨listing, List.mem_append_left _ hlisted⟩

/-- Log lines are in order at any stage. -/
theorem of_logged (h : ∀ effect ∈ effects, ∃ record, effect = .logged record) :
    InOrder port stage effects := by
  rw [← List.nil_append effects]
  refine (nil port stage).append (Nat.le_refl stage) (fun effect heffect ↦ ?_)
    (fun listing hlisted ↦ ?_) (fun failure hsent ↦ ?_)
  · obtain ⟨record, rfl⟩ := h effect heffect
    exact Effect.belongsTo_logged port stage record
  · obtain ⟨record, hrecord⟩ := h _ hlisted
    cases hrecord
  · obtain ⟨record, hrecord⟩ := h _ hsent
    cases hrecord

end InOrder

/-! ## What a machine does -/

/-- What a log of the given destination adds to the standard output. -/
def received (destination : Destination) (filter : Filter) (effects : List Effect) : Bytes :=
  if destination = .output then (effects.filterMap (Effect.text? filter)).flatMap Text.encode
  else []

theorem received_append (destination : Destination) (filter : Filter)
    (effects later : List Effect) :
    received destination filter (effects ++ later) =
      received destination filter effects ++ received destination filter later := by
  unfold received
  split
  · rw [List.filterMap_append, List.flatMap_append]
  · rfl

namespace Machine

/-- A log to the standard output arrives there. -/
def IsHeard (m : Machine) : Prop :=
  m.destination = .output → m.outlets.output.isCutOff = false

/-- The later machine has come about by effects that are all allowed, with the log left where it
was. The standard output has received what it is told of them and nothing else. -/
structure Acts (allowed : Effect → Prop) (m m' : Machine) : Prop where
  kernel : m'.kernel = m.kernel
  filter : m'.filter = m.filter
  destination : m'.destination = m.destination
  effects : ∃ effects : List Effect, m'.journal = m.journal ++ effects ∧
    (∀ effect ∈ effects, allowed effect) ∧
    (m.IsHeard → m'.IsHeard ∧ m'.outlets.output.content =
      m.outlets.output.content ++ received m.destination m.filter effects)

namespace Acts

variable {allowed : Effect → Prop} {m m' m'' : Machine}

theorem of_eq (hkernel : m'.kernel = m.kernel) (hfilter : m'.filter = m.filter)
    (hdestination : m'.destination = m.destination) (hjournal : m'.journal = m.journal)
    (houtput : m'.outlets.output = m.outlets.output) : m.Acts allowed m' := by
  refine ⟨hkernel, hfilter, hdestination, [], ?_, List.forall_mem_nil _, fun hheard ↦ ⟨?_, ?_⟩⟩
  · rw [hjournal, List.append_nil]
  · rwa [IsHeard, houtput, hdestination]
  · rw [houtput]
    simp [received]

theorem refl (m : Machine) : m.Acts allowed m :=
  of_eq rfl rfl rfl rfl rfl

theorem trans (h : m.Acts allowed m') (h' : m'.Acts allowed m'') : m.Acts allowed m'' := by
  obtain ⟨effects, hjournal, hallowed, houtput⟩ := h.effects
  obtain ⟨effects', hjournal', hallowed', houtput'⟩ := h'.effects
  refine ⟨h'.kernel.trans h.kernel, h'.filter.trans h.filter, h'.destination.trans h.destination,
    effects ++ effects', ?_, List.forall_mem_append.2 ⟨hallowed, hallowed'⟩, fun hheard ↦ ?_⟩
  · rw [hjournal', hjournal, List.append_assoc]
  · obtain ⟨hheard', hcontent⟩ := houtput hheard
    obtain ⟨hheard'', hcontent'⟩ := houtput' hheard'
    refine ⟨hheard'', ?_⟩
    rw [hcontent', hcontent, h.destination, h.filter, received_append, List.append_assoc]

theorem emit (h : m.Acts allowed m') (effect : Effect) (hallowed : allowed effect) :
    m.Acts allowed (m'.emit effect) := by
  refine h.trans ?_
  unfold Machine.emit
  cases htext : effect.text? m'.filter with
  | none =>
    refine ⟨rfl, rfl, rfl, [effect], rfl, List.forall_mem_singleton.2 hallowed, fun hheard ↦
      ⟨hheard, ?_⟩⟩
    simp [note, received, htext]
  | some text =>
    refine ⟨rfl, rfl, rfl, [effect], rfl, List.forall_mem_singleton.2 hallowed, fun hheard ↦ ?_⟩
    have houtput : ((m'.note effect).write text).outlets.output =
        if m'.destination = .output then m'.outlets.output.write (Text.encode text)
        else m'.outlets.output := Log.Outlets.output_write _ _ _
    unfold IsHeard
    rw [houtput]
    by_cases hdestination : m'.destination = .output
    · have hopen := hheard hdestination
      simp [hdestination, Log.Stream.write, hopen, received, htext]
    · exact ⟨fun h ↦ absurd h hdestination, by simp [hdestination, received]⟩

theorem log (h : m.Acts allowed m') (record : Record) (hallowed : allowed (.logged record)) :
    m.Acts allowed (m'.log record) := by
  rw [log_eq_emit]
  exact h.emit _ hallowed

theorem logAll (h : m.Acts allowed m') (records : List Record)
    (hallowed : ∀ record, allowed (.logged record)) : m.Acts allowed (m'.logAll records) := by
  induction records generalizing m' with
  | nil => exact h
  | cons record records ih => exact ih (h.log record (hallowed record))

theorem list (h : m.Acts allowed m') (generation : Nat) (listing : String)
    (hallowed : allowed (.listed generation listing)) :
    m.Acts allowed (m'.list generation listing) :=
  h.emit (.listed generation listing) hallowed

theorem flush (h : m.Acts allowed m') (hallowed : allowed .flushed) : m.Acts allowed m'.flush :=
  h.emit .flushed hallowed

theorem note (h : m.Acts allowed m') (effect : Effect) (htext : effect.text? m'.filter = none)
    (hallowed : allowed effect) : m.Acts allowed (m'.note effect) := by
  have hemit := h.emit effect hallowed
  simpa only [Machine.emit, htext] using hemit

theorem withTree (h : m.Acts allowed m') (tree : FileTree) : m.Acts allowed (m'.withTree tree) :=
  h.trans (of_eq rfl rfl rfl rfl rfl)

/-- A call keeps a log to the standard output heard as long as it leaves that stream alone. -/
theorem call (h : m.Acts allowed m') (c : SystemCall)
    (hkept : m.destination = .output → c ≠ .redirect .output)
    (hallowed : ∀ failure, allowed (.called c failure)) : m.Acts allowed (m'.call c).2 := by
  have hnoted := h.note (.called c ((m'.kernel.failure c).or (m'.obstacle c))) rfl (hallowed _)
  unfold Machine.call
  dsimp only
  split
  · refine hnoted.trans ?_
    unfold afterSuccess
    split
    · exact of_eq rfl rfl rfl rfl rfl
    · refine ⟨rfl, rfl, rfl, [], (List.append_nil _).symm, List.forall_mem_nil _, fun _ ↦ ?_⟩
      have hfile : m'.destination ≠ .output := fun houtput ↦
        hkept (h.destination.symm.trans houtput) rfl
      refine ⟨fun houtput ↦ absurd houtput hfile, ?_⟩
      simp [received]
    · exact of_eq rfl rfl rfl rfl rfl
    · exact refl _
  · exact hnoted

end Acts

end Machine

/-! ## A running controller -/

section
variable (port : UInt32)

theorem Connector.acts_receive (connector : Connector) (delivery : Delivery) (m : Machine) :
    m.Acts (Effect.BelongsTo port 7) (connector.receive delivery m).2.2 := by
  obtain ⟨records, -, hreceive⟩ := connector.snd_receive delivery m
  rw [hreceive]
  exact (Machine.Acts.refl m).logAll records (Effect.belongsTo_logged port 7)

theorem Connector.acts_close (connector : Connector) (m : Machine) :
    m.Acts (Effect.BelongsTo port 7) (connector.close m).2 := by
  cases hopen : connector.isOpen with
  | false =>
    rw [connector.close_of_closed m hopen]
    exact .refl m
  | true =>
    have hsent : m.Acts (Effect.BelongsTo port 7)
        (m.call (.send (Subscription.ignore.message connector.port))).2 := by
      refine (Machine.Acts.refl m).call _ (fun _ ↦ nofun) fun failure ↦ ?_
      have hbelongs := Effect.belongsTo_called port
        (.send (Subscription.ignore.message connector.port)) failure
      rwa [stage_send_ignore] at hbelongs
    obtain ⟨records, -, hclose⟩ := connector.snd_close m hopen
    rw [hclose]
    exact hsent.logAll records (Effect.belongsTo_logged port 7)

namespace Controller

variable {σ : Type} [Classifier σ] (c : Controller σ)

/-- A running controller only has effects of the last stage. -/
abbrev Works (c c' : Controller σ) : Prop :=
  c.machine.Acts (Effect.BelongsTo port 7) c'.machine

omit [Classifier σ] in
theorem works_log (c' : Controller σ) (h : c.Works port c') (level : Log.Level)
    (message : String) : c.Works port (c'.log level message) :=
  h.log _ (Effect.belongsTo_logged port 7 _)

omit [Classifier σ] in
theorem works_enter (c' : Controller σ) (h : c.Works port c') (phase : Phase) :
    c.Works port (c'.enter phase) :=
  works_log port c c' h _ _

theorem works_handleBatch (batch : Bytes) : c.Works port (c.handleBatch batch) :=
  (((Machine.Acts.refl c.machine).withTree _).logAll _ (Effect.belongsTo_logged port 7)).note
    (.handled batch) rfl (Effect.belongsTo_handled port batch)

theorem works_reload : c.Works port c.reload := by
  have hannounced : c.Works port c.announce :=
    works_log port c { c.enter .reloading with generation := c.generation + 1 }
      (works_enter port c c (.refl _) .reloading) _ _
  rw [Works, reload_machine]
  exact (((hannounced.logAll _ (Effect.belongsTo_logged port 7)).list _ _
    (Effect.belongsTo_later_listing port c.generation _)).flush
    (Effect.belongsTo_flushed port 7)).log _ (Effect.belongsTo_logged port 7 _)

/-- The controller once it has told what it has done. -/
def reported (c : Controller σ) : Controller σ :=
  let stopped := (c.enter .stopping).log .info "Stopped CGroup Rules Engine Daemon"
  let counted := stopped.log .info
    s!"Processed {c.pipeline.stats.text} with {c.generation} rule reloads"
  if 0 < c.connector.overruns then
    counted.log .info s!"{c.connector.overruns} kernel buffer overruns"
  else counted

omit [Classifier σ] in
theorem exists_logAll_log {m : Machine} (h : ∃ records, c.machine = m.logAll records)
    (level : Log.Level) (message : String) :
    ∃ records, (c.log level message).machine = m.logAll records := by
  obtain ⟨records, hlogged⟩ := h
  refine ⟨records ++ [controllerRecord level message], ?_⟩
  rw [m.logAll_append, ← hlogged]
  rfl

omit [Classifier σ] in
/-- Reporting only logs. -/
theorem machine_reported : ∃ records, c.reported.machine = c.machine.logAll records := by
  have hstopping : ∃ records, (c.enter .stopping).machine = c.machine.logAll records :=
    exists_logAll_log c ⟨[], rfl⟩ _ _
  have hcounted := exists_logAll_log _ (exists_logAll_log _ hstopping .info
    "Stopped CGroup Rules Engine Daemon") .info
    s!"Processed {c.pipeline.stats.text} with {c.generation} rule reloads"
  unfold reported
  dsimp only
  split
  · exact exists_logAll_log _ hcounted _ _
  · exact hcounted

omit [Classifier σ] in
theorem shutDown_eq : c.shutDown = c.reported.finish :=
  rfl

/-- The controller of a pass, whether it waits or ends. -/
def Progress.controller : Progress σ → Controller σ
  | waits c => c
  | ends c _ => c

theorem works_handle (incident : Incident) : c.Works port (c.handle incident).controller := by
  cases incident with
  | fileChange location entry => exact (Machine.Acts.refl c.machine).withTree _
  | reload => exact works_reload port c
  | stop signal => exact works_log port c c (.refl _) _ _
  | delivery delivery =>
    have hreceived := Connector.acts_receive port c.connector delivery c.machine
    simp only [handle]
    rcases hreceive : c.connector.receive delivery c.machine with
      ⟨_ | _ | ⟨batch, sender⟩, connector, m⟩ <;> rw [hreceive] at hreceived
    · exact hreceived
    · exact hreceived
    · dsimp only
      split
      · exact hreceived.trans (works_handleBatch port ⟨m, c.pipeline, connector, c.generation,
          c.phase⟩ batch)
      · exact hreceived.log _ (Effect.belongsTo_logged port 7 _)

theorem works_handleAll (incidents : List Incident) :
    c.Works port (c.handleAll incidents).2 := by
  induction incidents generalizing c with
  | nil => exact works_log port c c (.refl _) _ _
  | cons incident incidents ih =>
    have hstep := works_handle port c incident
    simp only [handleAll]
    cases hhandle : c.handle incident with
    | waits c' =>
      rw [hhandle] at hstep
      exact hstep.trans (ih c')
    | ends c' result =>
      rw [hhandle] at hstep
      exact hstep

omit [Classifier σ] in
theorem works_finish : c.Works port c.finish :=
  (((Machine.Acts.refl c.machine).trans (Connector.acts_close port c.connector c.machine)).flush
    (Effect.belongsTo_flushed port 7)).log _ (Effect.belongsTo_logged port 7 _)

omit [Classifier σ] in
theorem works_shutDown : c.Works port c.shutDown := by
  obtain ⟨records, hreported⟩ := c.machine_reported
  have hlogged : c.Works port c.reported := by
    rw [Works, hreported]
    exact (Machine.Acts.refl c.machine).logAll records (Effect.belongsTo_logged port 7)
  exact hlogged.trans (works_finish port c.reported)

theorem works_run (incidents : List Incident) : c.Works port (c.run incidents).2 :=
  ((works_log port c c (.refl _) _ _).trans (works_handleAll port c.started incidents)).trans
    (works_shutDown port _)

end Controller

end

end Regroup.Daemon
