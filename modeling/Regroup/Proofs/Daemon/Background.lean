import Regroup.Proofs.Daemon.Step

/-!
# Serving in the background

A daemon that goes into the background enters the root directory. By then it has found its rules
file and the root of the groups, but it goes on using their paths, and that of the process records.
Where these are absolute the daemon serves as it would have done in the foreground. Where one is
relative it is looked up from another directory than the one in which it was found.

A start in the foreground goes through the same stages but one, so the two starts are compared stage
by stage, and the two runs by the controllers that they hand over to.
-/

namespace Regroup

namespace FileTree

theorem put_frame (t : FileTree) (location : Location) (entry : Entry) :
    (t.put location entry).workingDirectory = t.workingDirectory ∧
      (t.put location entry).substitutes = t.substitutes := by
  unfold put
  split <;> exact ⟨rfl, rfl⟩

theorem openForAppending_frame (t opened : FileTree) (path : String) (location : Location)
    (h : t.openForAppending path = .ok (location, opened)) :
    opened.workingDirectory = t.workingDirectory ∧ opened.substitutes = t.substitutes := by
  obtain ⟨_, -, h⟩ := (bind_eq_ok_iff _ _ _).1 h
  dsimp only at h
  split at h
  · cases h
  obtain ⟨parent, -, h⟩ := (bind_eq_ok_iff _ _ _).1 h
  split at h
  · cases h
  split at h
  · cases h
  split at h
  · cases h
    exact ⟨rfl, rfl⟩
  · cases h
  · cases h
    exact t.put_frame _ _

/-- The later tree is the same, or the same from the root directory. -/
def MayEnterRoot (t u : FileTree) : Prop :=
  u = t ∨ u = { t with workingDirectory := [] }

theorem MayEnterRoot.trans {t u v : FileTree} (h : MayEnterRoot t u) (h' : MayEnterRoot u v) :
    MayEnterRoot t v := by
  rcases h with rfl | rfl
  · exact h'
  · rcases h' with rfl | rfl
    · exact .inr rfl
    · exact .inr rfl

/-- No path from the bases on depends on where the daemon was started, unless that was the root
directory. -/
def Anchors (tree : FileTree) (bases : List String) : Prop :=
  tree.workingDirectory = [] ∨
    (∀ base ∈ bases, Path.isAbsolute base = true) ∧
      ∀ substitute ∈ tree.substitutes, Path.isAbsolute substitute.2 = true

theorem Anchors.mirrors {t u : FileTree} {bases : List String} (h : t.Anchors bases)
    (hroot : MayEnterRoot t u) : Mirrors bases t u := by
  rcases hroot with rfl | rfl
  · exact .refl bases u
  · exact ⟨rfl, rfl, h⟩

end FileTree

/-- Nothing but the daemonizing depends on being told to stay in the foreground. -/
theorem Config.Settings.resolve_nodaemon (config : Configuration) (options : CommandLine.Options)
    (settings : Settings) (h : resolve config options = .ok settings) :
    resolve config { options with nodaemon := true } =
      .ok { settings with daemonize := false } := by
  unfold resolve at h ⊢
  simp only [bind_eq_ok_iff] at h ⊢
  obtain ⟨size, hsize, daemonize, -, logging, hlogging, logFile, hlogFile, processRoot,
    hprocessRoot, rulesFile, hrulesFile, cgroupRoot, hcgroupRoot, useCache, huseCache,
    socketBuffer, hsocketBuffer, ⟨⟩⟩ := h
  exact ⟨size, hsize, false, rfl, logging, hlogging, logFile, hlogFile, processRoot,
    hprocessRoot, rulesFile, hrulesFile, cgroupRoot, hcgroupRoot, useCache, huseCache,
    socketBuffer, hsocketBuffer, rfl⟩

namespace Daemon

open CommandLine (Options)
open Config (Configuration Settings)
open FileTree (MayEnterRoot)
open Log (Record)
open Netlink (doneKind identityFrame userChanged)

theorem Machine.mayEnterRoot_call (m : Machine) (c : SystemCall) :
    MayEnterRoot m.tree (m.call c).2.tree := by
  by_cases hroot : c = .enterRootDirectory
  · subst hroot
    unfold call
    dsimp only
    split
    · exact .inr rfl
    · exact .inl rfl
  · exact .inl (m.tree_call_of_ne c hroot)

theorem mayEnterRoot_callInTurn (steps : List (SystemCall × String)) (m : Machine) :
    MayEnterRoot m.tree (callInTurn steps m).2.tree :=
  callInTurn_keeps (fun reached ↦ MayEnterRoot m.tree reached.tree) steps
    (fun reached hreached step _ ↦ hreached.trans (reached.mayEnterRoot_call step.1)) m (.inl rfl)

theorem mayEnterRoot_enterBackground (keepOutput : Bool) (m : Machine)
    (hchild : m.kernel.parentOf = none) :
    MayEnterRoot m.tree (enterBackground keepOutput m).2.tree := by
  have hforked := Machine.mayEnterRoot_call { m with inBackground := true } .fork
  rcases snd_enterBackground_child keepOutput m hchild with hthere | hfailed | hdetached
  · rw [hthere]
    exact .inl rfl
  · rw [hfailed]
    exact hforked
  · rw [hdetached]
    exact hforked.trans (mayEnterRoot_callInTurn _ _)

/-- All that going into the background changes for a daemon is where relative paths start from. -/
theorem mirrors_enterBackground {bases : List String} (m : Machine)
    (hchild : m.kernel.parentOf = none) (hanchored : m.tree.Anchors bases) :
    m.Mirrors bases (enterBackground (m.destination == .output) m).2 := by
  have hacts := acts_enterBackground m.kernel.processNumber m hchild
  exact ⟨hacts.kernel, hacts.filter, hacts.destination,
    hanchored.mirrors (mayEnterRoot_enterBackground _ m hchild)⟩

/-! ## Starts -/

namespace Start

/-- The same start with a daemon that stays in the foreground. -/
def inForeground (start : Start) : Start :=
  { start with options := { start.options with nodaemon := true } }

theorem settings_inForeground (start : Start) (settings : Settings)
    (h : start.settings = .ok settings) :
    start.inForeground.settings = .ok { settings with daemonize := false } := by
  obtain ⟨config, hload, hresolve⟩ := (bind_eq_ok_iff _ _ _).1 h
  exact (bind_eq_ok_iff _ _ _).2 ⟨config, hload, Settings.resolve_nodaemon _ _ _ hresolve⟩

/-- A start that succeeds in the background succeeds in the foreground. -/
theorem outcome_inForeground (start : Start) (settings : Settings) (engine : Engine)
    (connector : Connector) (h : start.outcome = .ok (settings, engine, connector)) :
    start.inForeground.outcome = .ok ({ settings with daemonize := false }, engine, connector) := by
  unfold outcome at h ⊢
  simp only [bind_eq_ok_iff, mapError_eq_ok_iff] at h ⊢
  obtain ⟨_, hroot, _, hsettings, _, hengine, _, -, _, hsignals, _, hchannel, ⟨⟩⟩ := h
  exact ⟨(), hroot, _, start.settings_inForeground _ hsettings, engine, hengine, (), rfl, (),
    hsignals, connector, hchannel, rfl⟩

end Start

namespace Stage

variable {bases : List String} {m m' : Machine}

/-- The log is opened at the same place. -/
theorem mirrors_openLog (hkernel : m'.kernel = m.kernel) (hfilter : m'.filter = m.filter)
    (htree : m'.tree = m.tree) (settings settings' : Settings)
    (hlogging : settings'.logging = settings.logging)
    (hlogFile : settings'.logFile = settings.logFile) :
    (openLog settings m).Mirrors bases (openLog settings' m') := by
  have hopened (base base' : Machine) (hbase : base.Mirrors bases base') (record : Record) :
      (base.log record).Mirrors bases (base'.log record) :=
    ((Machine.InStep.begin hbase).log record).toMirrors
  have hsame : FileTree.Mirrors bases m.tree m'.tree := htree ▸ .refl bases m'.tree
  unfold openLog
  dsimp only
  rw [hlogging, hlogFile, htree]
  split
  · split
    · rename_i location tree hopen
      let banner := s!"Opened log file: {settings.logFile}\n"
      let base (m : Machine) : Machine := { m.withTree tree with destination := .file location }
      exact hopened ((base m).print banner) ((base m').print banner)
        ⟨hkernel, hfilter, rfl, .refl bases tree⟩ _
    · rename_i cause hopen
      let warning := s!"Failed to open log file {settings.logFile}, " ++
        s!"error: {cause.message}. Continuing anyway.\n"
      exact hopened { m.printError warning with destination := .output }
        { m'.printError warning with destination := .output } ⟨hkernel, hfilter, rfl, hsame⟩ _
  · exact hopened { m with destination := .output } { m' with destination := .output }
      ⟨hkernel, hfilter, rfl, hsame⟩ _

/-- Opening the log leaves the working directory as it is. -/
theorem anchors_openLog {start : Start} (h : start.IsEarly m) (settings : Settings)
    (hanchored : start.tree.Anchors bases) : (openLog settings m).tree.Anchors bases := by
  have hshape := (hasOpenedLog_openLog h settings).shape
  have hlog : (start.log settings).2.workingDirectory = start.tree.workingDirectory ∧
      (start.log settings).2.substitutes = start.tree.substitutes := by
    unfold Start.log
    split
    · split
      · rename_i location opened hopen
        exact start.tree.openForAppending_frame opened _ location hopen
      · exact ⟨rfl, rfl⟩
    · exact ⟨rfl, rfl⟩
  unfold FileTree.Anchors
  rw [← hshape.workingDirectory, ← hshape.substitutes, hlog.1, hlog.2]
  exact hanchored

theorem daemonize_machine (h : daemonize.run m = .ok () m') :
    m' = (enterBackground (m.destination == .output) m).2 := by
  unfold daemonize at h
  simp only [bind_eq_ok_iff] at h
  obtain ⟨_, _, ⟨⟩, continuation, reached, hstep, hcontinuation⟩ := h
  rw [step_eq_ok _ _ _ _ _ hstep]
  cases continuation with
  | goesOn =>
    cases hcontinuation
    rfl
  | isParent => cases hcontinuation

/-- What taking up the service has gone through. -/
theorem takeUp_machine (settings taken : Settings) (engine loaded : Engine) (connector : Connector)
    (m m' : Machine) (h : (takeUp settings engine).run m = .ok (taken, loaded, connector) m') :
    let announced := m.log ⟨.info, .daemon, s!"Proceeding with PID {m.kernel.processNumber}"⟩
    let handling := ((announced.call .startEventLoop).2.call .handleSignals).2
    ∃ subscribed,
      Connector.openFor settings.channel (listRules engine handling) =
        (.ok connector, subscribed) ∧
      m' = subscribed.log
        ⟨.debug, .daemon, s!"Subscribed to process events as netlink port {connector.port}"⟩ := by
  unfold takeUp at h
  simp only [bind_eq_ok_iff] at h
  obtain ⟨_, _, ⟨⟩, _, _, ⟨⟩, _, looping, hloop, _, handling, hsignals, _, _, ⟨⟩, _, subscribed,
    hopen, _, _, ⟨⟩, ⟨⟩⟩ := h
  obtain rfl := call_eq_ok _ _ _ _ hloop
  obtain rfl := call_eq_ok _ _ _ _ hsignals
  exact ⟨subscribed, step_eq_ok _ _ _ _ _ hopen, rfl⟩

/-- Taking up the service on machines that mirror each other leaves such machines. -/
theorem mirrors_takeUp (h : m.Mirrors bases m') (settings settings' taken taken' : Settings)
    (engine loaded loaded' : Engine) (connector : Connector) (served served' : Machine)
    (hchannel : settings'.channel = settings.channel)
    (hrun : (takeUp settings engine).run m = .ok (taken, loaded, connector) served)
    (hrun' : (takeUp settings' engine).run m' = .ok (taken', loaded', connector) served') :
    served.Mirrors bases served' := by
  obtain ⟨subscribed, hopen, rfl⟩ := takeUp_machine _ _ _ _ _ _ _ hrun
  obtain ⟨subscribed', hopen', rfl⟩ := takeUp_machine _ _ _ _ _ _ _ hrun'
  rw [h.kernel, hchannel] at hopen'
  have hannounced := (Machine.InStep.begin h).log
    ⟨.info, .daemon, s!"Proceeding with PID {m.kernel.processNumber}"⟩
  have hhandling := (hannounced.call .startEventLoop ⟨nofun, nofun⟩).call .handleSignals
    ⟨nofun, nofun⟩
  have hlisted := (hhandling.list 0 (listingText 0 engine.listing)).flush
  exact ((Connector.inStep_openFor hlisted _ _ _ _ _ hopen hopen').log _).toMirrors

/-- What a start that succeeds has gone through: the early stages have only logged, then the log was
opened, the background entered if it was asked for, and the service taken up. -/
theorem startUp_machine (options : Options) (identities : Identities) (m m' : Machine)
    (settings : Settings) (engine : Engine) (connector : Connector)
    (h : (startUp options identities).run m = .ok (settings, engine, connector) m') :
    ∃ records, let opened := openLog settings (m.logAll records)
      (takeUp settings engine).run
        (if settings.daemonize then (enterBackground (opened.destination == .output) opened).2
        else opened) = .ok (settings, engine, connector) m' := by
  rw [startUp_eq] at h
  simp only [bind_eq_ok_iff] at h
  obtain ⟨_, _, ⟨⟩, _, _, hroot, settings', _, hsettings, engine', _, hengine, _, _, ⟨⟩, hrest⟩ := h
  obtain rfl := requireRoot_eq_ok _ _ hroot
  obtain ⟨records, -, rfl⟩ := loadSettings_eq_ok _ _ _ _ hsettings
  obtain ⟨records', -, -, -, rfl, -⟩ := startEngine_eq_ok _ _ _ _ _ hengine
  let announcement : Record :=
    ⟨.trace, .daemon, s!"cgrulesd options: {Config.optionsText options}"⟩
  have hlogged : m.logAll (announcement :: (records ++ records')) =
      ((m.log announcement).logAll records).logAll records' :=
    (m.log announcement).logAll_append records records'
  refine ⟨announcement :: (records ++ records'), ?_⟩
  dsimp only
  rw [hlogged]
  split at hrest
  · rename_i hdaemonize
    obtain ⟨_, detached, hdetached, htake⟩ := (bind_eq_ok_iff _ _ _ _ _).1 hrest
    rw [daemonize_machine hdetached] at htake
    obtain ⟨rfl, rfl, -⟩ := takeUp_eq_ok _ _ _ _ _ _ _ htake
    rw [if_pos hdaemonize]
    exact htake
  · rename_i hforeground
    obtain ⟨rfl, rfl, -⟩ := takeUp_eq_ok _ _ _ _ _ _ _ hrest
    rw [if_neg hforeground]
    exact hrest

/-- A start leaves the same machine in the background and in the foreground, but for where relative
paths start from. -/
theorem mirrors_startUp (start : Start) (h : start.IsEarly m)
    (hchild : start.kernel.parentOf = none) (hanchored : start.tree.Anchors bases)
    (settings : Settings) (hdaemonize : settings.daemonize = true) (engine : Engine)
    (connector : Connector) (background foreground : Machine)
    (hrun : (startUp start.options start.identities).run m =
      .ok (settings, engine, connector) background)
    (hrun' : (startUp start.inForeground.options start.identities).run m =
      .ok ({ settings with daemonize := false }, engine, connector) foreground) :
    foreground.Mirrors bases background := by
  obtain ⟨records, htake⟩ := startUp_machine _ _ _ _ _ _ _ hrun
  obtain ⟨records', htake'⟩ := startUp_machine _ _ _ _ _ _ _ hrun'
  dsimp only at htake htake'
  rw [if_pos hdaemonize] at htake
  rw [if_neg Bool.false_ne_true] at htake'
  have hlogged := h.logAll records
  have hlogged' := h.logAll records'
  have hacts (records : List Record) : m.Acts (fun _ ↦ True) (m.logAll records) :=
    (Machine.Acts.refl m).logAll records fun _ ↦ trivial
  have hopened : (openLog { settings with daemonize := false } (m.logAll records')).Mirrors bases
      (openLog settings (m.logAll records)) :=
    mirrors_openLog (hlogged.kernel.trans hlogged'.kernel.symm)
      ((hacts records).filter.trans (hacts records').filter.symm)
      (hlogged.tree.trans hlogged'.tree.symm) { settings with daemonize := false } settings rfl rfl
  have hforked := (hasOpenedLog_openLog hlogged settings).logged.kernel
  have hdetached := mirrors_enterBackground (openLog settings (m.logAll records))
    (hforked ▸ hchild) (anchors_openLog hlogged settings hanchored)
  have hchannel : settings.channel = { settings with daemonize := false }.channel := rfl
  exact mirrors_takeUp (hopened.trans hdetached) _ _ _ _ _ _ _ _ _ _ hchannel htake' htake

end Stage

/-! ## Runs -/

/-- Machines in step are closed in step, with the same exit status. -/
theorem Machine.InStep.finish {bases : List String} {before before' : List Effect} {m m' : Machine}
    (h : m.InStep bases before before' m') (environment : Environment)
    (result : Except Failure Unit) :
    (finish environment result m').1 = (finish environment result m).1 ∧
      InStep bases before before' (finish environment result m).2
        (finish environment result m').2 := by
  have hclose {m m' : Machine} (h : InStep bases before before' m m') :
      InStep bases before before' m.close m'.close := by
    have hclosed : InStep bases before before' { m with destination := .closed }
        { m' with destination := .closed } := ⟨⟨h.kernel, h.filter, rfl, h.tree⟩, h.journal⟩
    exact hclosed.note .closed
  cases result with
  | ok _ => exact ⟨rfl, hclose h⟩
  | error failure =>
    unfold Daemon.finish
    dsimp only
    rw [h.filter]
    exact ⟨rfl, hclose (h.log _)⟩

/-- What starts in the background starts in the foreground as well, with the same engine. -/
theorem run_inForeground (start : Start) {m background : Machine} (h : start.IsEarly m)
    (hchild : start.kernel.parentOf = none) (settings : Settings) (engine : Engine)
    (connector : Connector)
    (hrun : (Stage.startUp start.options start.identities).run m =
      .ok (settings, engine, connector) background) :
    ∃ foreground, (Stage.startUp start.inForeground.options start.identities).run m =
      .ok ({ settings with daemonize := false }, engine, connector) foreground := by
  have houtcome : start.outcome = .ok (settings, engine, connector) := by
    obtain ⟨reached, hcomes, -⟩ := Stage.comesTo_startUp h hchild
    rw [hrun] at hcomes
    cases hsettled : start.outcome with
    | error failure =>
      rw [hsettled] at hcomes
      cases hcomes
    | ok taken =>
      rw [hsettled] at hcomes
      cases hcomes
      rfl
  have hearly : start.inForeground.IsEarly m :=
    ⟨h.kernel, h.tree, h.destination, h.inBackground, h.output, h.journal⟩
  obtain ⟨foreground, hcomes, -⟩ := Stage.comesTo_startUp hearly hchild
  rw [start.outcome_inForeground _ _ _ houtcome] at hcomes
  exact ⟨foreground, hcomes⟩

/-- A daemon in the background serves like one in the foreground, as long as the paths that it goes
on using are absolute or it was started in the root directory anyway: it asks for the same processes
to be moved, moves them to the same groups, reads the same rules whenever it is told to, and ends
with the same exit status. -/
theorem background_serves_alike (options : Options) (environment : Environment) (kernel : Kernel)
    (tree : FileTree) (incidents : List Incident) (m background : Machine) (settings : Settings)
    (engine : Engine) (connector : Connector)
    (h : Start.IsEarly ⟨options, environment.identities, kernel, tree⟩ m)
    (hchild : kernel.parentOf = none)
    (hrun : (Stage.startUp options environment.identities).run m =
      .ok (settings, engine, connector) background)
    (hdaemonize : settings.daemonize = true)
    (hanchored : tree.Anchors
      (settings.processRoot :: engine.rulesFile :: engine.root.toList)) :
    let inForeground : Options := { options with nodaemon := true }
    let controller (m : Machine) : Controller Engine :=
      ⟨m, ⟨settings.processRoot, settings.useCache, engine, {}⟩, connector, 0, .running⟩
    let ended := runDaemon inForeground environment incidents m
    let ended' := runDaemon options environment incidents m
    ∃ foreground,
      (Stage.startUp inForeground environment.identities).run m =
        .ok ({ settings with daemonize := false }, engine, connector) foreground ∧
      (controller foreground).ServesAlike (controller background) incidents ∧
      ended'.1 = ended.1 ∧ ended'.2.tree.entries = ended.2.tree.entries := by
  intro inForeground controller ended ended'
  let bases := settings.processRoot :: engine.rulesFile :: engine.root.toList
  let start : Start := ⟨options, environment.identities, kernel, tree⟩
  obtain ⟨foreground, hrun'⟩ :=
    run_inForeground start h hchild settings engine connector hrun
  have hmirrors : foreground.Mirrors bases background :=
    Stage.mirrors_startUp start h hchild hanchored settings hdaemonize engine connector background
      foreground hrun hrun'
  have hleans : engine.LeansOn bases :=
    ⟨by simp [bases], fun root hroot ↦ by simp [bases, hroot]⟩
  have hstep : (controller foreground).InStep bases (Engine.Alike bases) foreground.journal
      background.journal (controller background) :=
    ⟨.begin hmirrors, ⟨List.mem_cons_self, rfl, rfl, ⟨rfl, hleans⟩, rfl⟩, rfl, rfl, rfl⟩
  obtain ⟨hresult, hlast⟩ := hstep.run (Engine.answersAlike bases) incidents
  have hended : ended = finish environment
      (((controller foreground).run incidents).1.mapError .channelLost)
      ((controller foreground).run incidents).2.machine :=
    runDaemon_of_startUp inForeground environment incidents m foreground
      { settings with daemonize := false } engine connector hrun'
  have hended' : ended' = finish environment
      (((controller background).run incidents).1.mapError .channelLost)
      ((controller background).run incidents).2.machine :=
    runDaemon_of_startUp options environment incidents m background settings engine connector hrun
  refine ⟨foreground, hrun', hstep.servesAlike incidents, ?_⟩
  rw [hended, hended', hresult]
  obtain ⟨hstatus, hfinished⟩ := hlast.machine.finish environment
    (((controller foreground).run incidents).1.mapError .channelLost)
  exact ⟨hstatus, hfinished.tree.entries.symm⟩

/-- The directory `/w`, that the daemon is started in, with a configuration of paths that begin as
given. -/
def homeTree (base : String) : FileTree where
  entries := [(["dev"], .directory), (["dev", "null"], .file []), (["w"], .directory),
    (["w", "c.ini"], .file (Text.encode
      s!"[daemon]\nproc_root={base}p\n[engine]\nrules_file={base}r\ncgroup_root={base}g\n")),
    (["w", "r"], .file (Text.encode "* * a\n")), (["w", "g"], .directory),
    (["w", "g", "a"], .directory), (["w", "g", "a", "cgroup.procs"], .file []),
    (["w", "p"], .directory), (["w", "p", "100"], .directory),
    (["w", "p", "100", "status"], .file (Text.encode "Uid:\t0\t1000\nGid:\t0\t50\n"))]
  workingDirectory := ["w"]

/-- The machine that the daemon is started on there. -/
def homeMachine (base : String) : Machine where
  kernel := { processNumber := 1, effectiveUser := 0 }
  outlets := { tree := homeTree base }
  filter := .ofLevel .info

/-- A daemon that is started there and told of a change of user. -/
def runAtHome (base : String) (nodaemon : Bool) : Nat × Machine :=
  runDaemon { config := some "c.ini", nolog := true, nodaemon } ⟨⟨[], []⟩, none, false⟩
    [.delivery (.datagram
      (identityFrame doneKind userChanged ⟨100, 100, 0, 1000⟩) (some 0)), .reload]
    (homeMachine base)

theorem background_serves_alike_at_home :
    let ended := runAtHome "/w/" true
    let ended' := runAtHome "/w/" false
    ended'.1 = ended.1 ∧ ended'.2.tree.entries = ended.2.tree.entries ∧
      ended'.2.tree.content? ["w", "g", "a", "cgroup.procs"] = some (Text.encode "100") := by
  intro ended ended'
  let options : Options := { config := some "c.ini", nolog := true }
  have hcheck : (match (Stage.startUp options ⟨[], []⟩).run (homeMachine "/w/") with
      | .ok (settings, engine, _) _ => decide (settings.daemonize = true ∧
        ∀ base ∈ settings.processRoot :: engine.rulesFile :: engine.root.toList,
          Path.isAbsolute base = true)
      | .error _ _ => false) = true := by
    decide +kernel
  cases hstart : (Stage.startUp options ⟨[], []⟩).run (homeMachine "/w/") with
  | error halt reached =>
    rw [hstart] at hcheck
    cases hcheck
  | ok taken background =>
    obtain ⟨settings, engine, connector⟩ := taken
    rw [hstart] at hcheck
    obtain ⟨hdaemonize, habsolute⟩ := of_decide_eq_true hcheck
    obtain ⟨foreground, -, -, hstatus, hentries⟩ := background_serves_alike options
      ⟨⟨[], []⟩, none, false⟩ (homeMachine "/w/").kernel (homeTree "/w/")
      [.delivery (.datagram
        (identityFrame doneKind userChanged ⟨100, 100, 0, 1000⟩) (some 0)), .reload]
      (homeMachine "/w/") background settings engine connector
      ⟨rfl, rfl, rfl, rfl, rfl, List.forall_mem_nil _⟩ rfl hstart hdaemonize
      (.inr ⟨habsolute, List.forall_mem_nil _⟩)
    exact ⟨hstatus, hentries, by decide +kernel⟩

/-- Relative paths are looked up when the daemon starts, and are lost in the background. -/
theorem background_misses_relative_paths :
    ¬∀ (options : Options) (environment : Environment) (kernel : Kernel) (tree : FileTree)
        (incidents : List Incident) (m background : Machine) (settings : Settings)
        (engine : Engine) (connector : Connector),
      Start.IsEarly ⟨options, environment.identities, kernel, tree⟩ m → kernel.parentOf = none →
      (Stage.startUp options environment.identities).run m =
        .ok (settings, engine, connector) background →
      settings.daemonize = true →
      (runDaemon options environment incidents m).2.tree.entries =
        (runDaemon { options with nodaemon := true } environment incidents m).2.tree.entries := by
  intro hall
  let options : Options := { config := some "c.ini", nolog := true }
  have hcheck : (match (Stage.startUp options ⟨[], []⟩).run (homeMachine "") with
      | .ok (settings, _, _) _ => settings.daemonize
      | .error _ _ => false) = true := by
    decide +kernel
  cases hstart : (Stage.startUp options ⟨[], []⟩).run (homeMachine "") with
  | error halt reached =>
    rw [hstart] at hcheck
    cases hcheck
  | ok taken background =>
    obtain ⟨settings, engine, connector⟩ := taken
    rw [hstart] at hcheck
    have hentries : (runAtHome "" false).2.tree.entries = (runAtHome "" true).2.tree.entries :=
      hall options ⟨⟨[], []⟩, none, false⟩ (homeMachine "").kernel (homeTree "") _
        (homeMachine "") background settings engine connector
        ⟨rfl, rfl, rfl, rfl, rfl, List.forall_mem_nil _⟩ rfl hstart hcheck
    exact absurd hentries (by decide +kernel)

end Daemon

end Regroup
