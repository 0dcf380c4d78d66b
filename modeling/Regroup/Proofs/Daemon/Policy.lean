import Regroup.Proofs.Daemon.StartUp
import Regroup.Proofs.Engine.Destinations

/-!
# The listed rules are in force

The log says which rules decide. After the start and after every reload it receives a listing, under
the number of reloads so far, of the rules of the last load that has succeeded, and until the next
listing every request is judged by just these, whatever becomes of the rules file in the meantime:
its process goes to the destinations that they select for its credential.
-/

namespace Regroup

/-- The request is judged by the given rules: its process is moved along the destinations, below the
root, of those that apply to its credential. -/
def Inquiry.IsJudgedBy (inquiry : Inquiry Engine) (identities : Identities) (root : String)
    (rules : RuleSet) : Prop :=
  let request := inquiry.request
  let selected := rules.selection request.user request.group (identities.userName? request.user)
  let answer := Classifier.classify inquiry.classifier inquiry.tree request
  Engine.MovesAlong inquiry.tree root request.process selected answer.result answer.tree

theorem Inquiry.isJudgedBy (inquiry : Inquiry Engine) (root : String) (rules : RuleSet)
    (hroot : inquiry.classifier.root = some root) (hrules : inquiry.classifier.cache = some rules)
    (hcache : inquiry.request.useCache = true) :
    inquiry.IsJudgedBy inquiry.classifier.identities root rules := by
  have hfound : (inquiry.classifier.rulesFor inquiry.tree inquiry.request.useCache).1 =
      .ok rules := by
    simp only [Engine.rulesFor, hcache, if_true, hrules]
  obtain ⟨hresult, htree⟩ :=
    inquiry.classifier.move_eq_moveAlong inquiry.tree inquiry.request rules hroot hfound
  change Engine.MovesAlong inquiry.tree root inquiry.request.process _
    (inquiry.classifier.move inquiry.tree inquiry.request).result
    (inquiry.classifier.move inquiry.tree inquiry.request).tree
  rw [hresult, htree]
  exact Engine.movesAlong_moveAlong inquiry.tree root inquiry.request.process _

namespace Pipeline

/-- An engine stays as it is in the course of a batch, so every request meets the same one. -/
theorem inquiries_engine (pipeline : Pipeline Engine) (tree : FileTree) (batch : Bytes) :
    ∀ inquiry ∈ pipeline.inquiries tree batch, inquiry.classifier = pipeline.classifier ∧
      inquiry.request.useCache = pipeline.useCache := by
  have hprogress := handleAll_induction pipeline.processRoot pipeline.useCache
    (motive := fun p : Progress (Watched Engine) ↦ p.classifier.classifier = pipeline.classifier ∧
      ∀ inquiry ∈ p.classifier.inquiries, inquiry.classifier = pipeline.classifier ∧
        inquiry.request.useCache = pipeline.useCache)
    (fun event p hp ↦ ?_) (Netlink.decode batch).1 ⟨⟨pipeline.classifier, []⟩, tree, {}, []⟩
    ⟨rfl, List.forall_mem_nil _⟩
  · rw [inquiries, handleBatch_classifier]
    exact hprogress.2
  · cases h : event.resolve p.tree pipeline.processRoot with
    | error cause =>
      rw [(handleEvent_of_resolve_eq_error _ _ event p cause h).1]
      exact hp
    | ok credential =>
      rw [(handleEvent_of_resolve_eq_ok _ _ event p credential h).1]
      refine ⟨hp.1, List.forall_mem_append.2 ⟨hp.2, List.forall_mem_singleton.2 ⟨hp.1, rfl⟩⟩⟩

theorem handleBatch_engine (pipeline : Pipeline Engine) (tree : FileTree) (batch : Bytes) :
    (pipeline.handleBatch tree batch).pipeline.classifier = pipeline.classifier := by
  rw [handleBatch_classifier]
  refine handleAll_induction pipeline.processRoot pipeline.useCache
    (motive := fun p : Progress Engine ↦ p.classifier = pipeline.classifier)
    (fun event p hp ↦ ?_) _ _ rfl
  cases h : event.resolve p.tree pipeline.processRoot with
  | error cause => rw [(handleEvent_of_resolve_eq_error _ _ event p cause h).1, hp]
  | ok credential =>
    rw [(handleEvent_of_resolve_eq_ok _ _ event p credential h).1]
    exact hp

end Pipeline

namespace Daemon

open CommandLine (Options)
open Config (Settings)

/-- What an attempt to read the rules has come to. -/
abbrev Load := Except RulesError RuleSet

/-- The rules of the last load that has succeeded, with those of the start before all others. -/
def inForce (first : RuleSet) (loads : List Load) : RuleSet :=
  (loads.filterMap Except.toOption).getLastD first

/-- One listing for the start and one for each reload. -/
def listings (first : RuleSet) (loads : List Load) : List (Nat × String) :=
  (List.range (loads.length + 1)).map fun k ↦
    (k, listingText k (inForce first (loads.take k)).listing)

/-- The changes of phase in the course of a number of reloads. -/
def reloadChanges (count : Nat) : List (Phase × Phase) :=
  (List.replicate count [(.running, .reloading), (.reloading, .running)]).flatten

theorem inForce_append_ok (first rules : RuleSet) (loads : List Load) :
    inForce first (loads ++ [.ok rules]) = rules := by
  simp [inForce, Except.toOption]

theorem inForce_append_error (first : RuleSet) (cause : RulesError) (loads : List Load) :
    inForce first (loads ++ [.error cause]) = inForce first loads := by
  simp [inForce, Except.toOption]

theorem listings_append (first : RuleSet) (loads : List Load) (load : Load) :
    listings first (loads ++ [load]) = listings first loads ++
      [(loads.length + 1,
        listingText (loads.length + 1) (inForce first (loads ++ [load])).listing)] := by
  unfold listings
  rw [List.length_append, List.length_singleton, List.range_succ, List.map_append]
  congr 1
  · refine List.map_congr_left fun k hk ↦ ?_
    rw [List.take_append_of_le_length (Nat.lt_succ_iff.1 (List.mem_range.1 hk))]
  · have hall : (loads ++ [load]).take (loads.length + 1) = loads ++ [load] :=
      List.take_of_length_le (by simp)
    rw [List.map_singleton, hall]

theorem reloadChanges_succ (count : Nat) :
    reloadChanges (count + 1) =
      reloadChanges count ++ [(.running, .reloading), (.reloading, .running)] := by
  simp [reloadChanges, List.replicate_succ']

namespace Controller

/-- What the rules file is read as when a reload has been announced. -/
def reading (c : Controller Engine) : Load :=
  (c.pipeline.classifier.readRulesFile c.announce.machine.tree).result

def load? (c : Controller Engine) : Incident → Option Load
  | .reload => some c.reading
  | .delivery _ | .stop _ | .fileChange _ _ => none

theorem load?_of_task? (c : Controller Engine) (incident : Incident)
    (h : incident.task? c.connector.bufferSize ≠ some .reload) : c.load? incident = none := by
  cases incident with
  | reload => exact absurd rfl h
  | delivery delivery | stop signal | fileChange location entry => rfl

/-- What the reloads among the incidents come to. -/
def loads (c : Controller Engine) (incidents : List Incident) : List Load :=
  (c.takings incidents).filterMap fun taking ↦ taking.1.load? taking.2

/-- The changes of files among the incidents. -/
def alterations (c : Controller Engine) (incidents : List Incident) : List FileTree :=
  (c.takings incidents).filterMap fun taking ↦ taking.1.alteration? taking.2

/-! ## Enforcing the listed rules -/

/-- The loads so far have been listed, and the rules of the last listing are in the cache. -/
structure Enforces (opened : Machine) (engine : Engine) (first : RuleSet) (trees : List FileTree)
    (loads : List Load) (c : Controller Engine) : Prop where
  isOpen : c.connector.isOpen = true
  useCache : c.pipeline.useCache = true
  generation : c.generation = loads.length
  phase : c.phase = .running
  engine : c.pipeline.classifier = { engine with cache := some (inForce first loads) }
  tells : opened.Tells trees (listings first loads) (reloadChanges loads.length) c.machine

namespace Enforces

variable {opened : Machine} {engine : Engine} {first : RuleSet} {trees : List FileTree}
variable {loads : List Load} {c c' : Controller Engine}

theorem reload (h : c.Enforces opened engine first trees loads) :
    c.reload.Enforces opened engine first trees (loads ++ [c.reading]) := by
  have hload := c.reload_classifier
  have hengine : c.reload.pipeline.classifier =
      { engine with cache := some (inForce first (loads ++ [c.reading])) } := by
    cases hreading : c.reading with
    | ok rules =>
      rw [hload, inForce_append_ok]
      exact (Engine.load_of_ok _ _ rules hreading).trans (by rw [h.engine])
    | error cause =>
      rw [hload, inForce_append_error]
      exact (Engine.load_of_error _ _ cause hreading).trans h.engine
  have htells := h.tells.trans (c.tells_reload Engine.logsApart)
  rw [List.append_nil, hengine, h.generation, h.phase, ← reloadChanges_succ] at htells
  refine ⟨?_, ?_, ?_, c.reload_phase, hengine, ?_⟩
  · rw [c.reload_connector]
    exact h.isOpen
  · rw [c.reload_useCache]
    exact h.useCache
  · rw [c.reload_generation, h.generation, List.length_append, List.length_singleton]
  · rw [listings_append, List.length_append, List.length_singleton]
    exact htells

theorem idle (h : c.Enforces opened engine first trees loads) (hidles : c.Idles c') :
    c'.Enforces opened engine first trees loads := by
  refine ⟨hidles.isOpen.trans h.isOpen, ?_, hidles.generation.trans h.generation,
    hidles.phase.trans h.phase, ?_, h.tells.quietly hidles.tells⟩
  · rw [hidles.pipeline]
    exact h.useCache
  · rw [hidles.pipeline]
    exact h.engine

theorem handleBatch (h : c.Enforces opened engine first trees loads) (batch : Bytes) :
    (c.handleBatch batch).Enforces opened engine first
      (trees ++ [(c.pipeline.handleBatch c.machine.tree batch).tree]) loads := by
  have htells := h.tells.trans (c.tells_handleBatch Engine.logsApart batch)
  rw [List.append_nil, List.append_nil] at htells
  exact ⟨h.isOpen, h.useCache, h.generation, h.phase,
    (c.pipeline.handleBatch_engine c.machine.tree batch).trans h.engine, htells⟩

theorem handle (h : c.Enforces opened engine first trees loads) (incident : Incident)
    (hhandle : c.handle incident = .waits c') :
    c'.Enforces opened engine first (trees ++ (c.alteration? incident).toList)
      (loads ++ (c.load? incident).toList) := by
  have hturn := c.turn_handle h.isOpen incident
  rw [hhandle] at hturn
  cases hturn with
  | batch incident c' batch htask hreached =>
    rw [c.load?_of_task? incident (by simp [htask]), Option.toList_none, List.append_nil, hreached]
    simp only [alteration?, htask]
    exact h.handleBatch batch
  | reload c' hreached =>
    rw [hreached, alteration?, Incident.task?, Option.toList_none, List.append_nil]
    exact h.reload
  | change location entry c' hreached =>
    rw [load?, Option.toList_none, List.append_nil, hreached]
    exact ⟨h.isOpen, h.useCache, h.generation, h.phase, h.engine, h.tells.withTree _⟩
  | idle incident c' hresult htask hidles =>
    rw [c.load?_of_task? incident (by simp [htask]), alteration?, htask]
    simp only [Option.toList_none, List.append_nil]
    exact h.idle hidles

/-- All the way through a run the listed rules are in force. -/
theorem handleAll (h : c.Enforces opened engine first trees loads) (incidents : List Incident) :
    (c.handleAll incidents).2.Enforces opened engine first (trees ++ c.alterations incidents)
        (loads ++ c.loads incidents) ∧
      ∀ taking ∈ c.takings incidents, ∃ trees' loads',
        trees' <+: trees ++ c.alterations incidents ∧ loads' <+: loads ++ c.loads incidents ∧
        taking.1.Enforces opened engine first trees' loads' := by
  -- the trees and the loads so far index the invariant, and each incident appends to them
  induction incidents generalizing c trees loads with
  | nil =>
    refine ⟨?_, List.forall_mem_nil _⟩
    rw [Controller.loads, alterations, takings, List.filterMap_nil, List.filterMap_nil,
      List.append_nil, List.append_nil]
    exact h.idle (c.idles_log _ _ (isQuiet_received .terminate))
  | cons incident incidents ih =>
    cases hhandle : c.handle incident with
    | ends c' result =>
      have hturn := c.turn_handle h.isOpen incident
      rw [hhandle] at hturn
      cases hturn with
      | ending incident c' result hresult hidles =>
        simp only [Controller.handleAll, Controller.loads, alterations, takings, hhandle,
          List.filterMap_nil, List.append_nil]
        exact ⟨h.idle hidles, List.forall_mem_nil _⟩
    | waits c' =>
      obtain ⟨hlast, htakings⟩ := ih (h.handle incident hhandle)
      have hloads : c.loads (incident :: incidents) =
          (c.load? incident).toList ++ c'.loads incidents := by
        simp only [Controller.loads, takings, hhandle, List.filterMap_cons]
        cases c.load? incident <;> rfl
      have halterations : c.alterations (incident :: incidents) =
          (c.alteration? incident).toList ++ c'.alterations incidents := by
        simp only [alterations, takings, hhandle, List.filterMap_cons]
        cases c.alteration? incident <;> rfl
      simp only [List.append_assoc, ← hloads, ← halterations] at hlast htakings
      simp only [Controller.handleAll, takings, hhandle]
      refine ⟨hlast, List.forall_mem_cons.2 ⟨⟨trees, loads, ?_, ?_, h⟩, htakings⟩⟩
      · exact List.prefix_append _ _
      · exact List.prefix_append _ _

/-- What is asked in the course of an incident is judged by the rules of the last listing. -/
theorem isJudgedBy (h : c.Enforces opened engine first trees loads) (root : String)
    (hroot : engine.root = some root) (incident : Incident) :
    ∀ inquiry ∈ c.asks incident,
      inquiry.IsJudgedBy engine.identities root (inForce first loads) := by
  intro inquiry hinquiry
  unfold asks at hinquiry
  split at hinquiry
  · obtain ⟨hclassifier, hcache⟩ := c.pipeline.inquiries_engine _ _ inquiry hinquiry
    rw [h.engine] at hclassifier
    have hidentities : inquiry.classifier.identities = engine.identities := by rw [hclassifier]
    rw [← hidentities]
    refine inquiry.isJudgedBy root _ ?_ ?_ (hcache.trans h.useCache)
    · rw [hclassifier]
      exact hroot
    · rw [hclassifier]
  · cases hinquiry

end Enforces

/-! ## Whole runs -/

/-- The listings that the log receives in the course of a run are those of the rules in force:
`first` are the rules of the start, and `opened` is the machine once the log has been opened. -/
structure ListsPolicy (c : Controller Engine) (opened : Machine) (root : String) (first : RuleSet)
    (incidents : List Incident) (closing : Machine) : Prop where
  taken : (c.started.takings incidents).map Prod.snd = taken incidents
  reloads : (c.started.loads incidents).length = (Controller.taken incidents).count .reload
  generation : (c.run incidents).2.generation = (Controller.taken incidents).count .reload
  phase : (c.run incidents).2.phase = .stopped
  received : opened.Tells (c.started.alterations incidents)
    (listings first (c.started.loads incidents))
    (reloadChanges ((Controller.taken incidents).count .reload) ++
      [(.running, .stopping), (.stopping, .stopped)]) closing
  enforced : ∀ taking ∈ c.started.takings incidents,
    let loads := (c.started.loads incidents).take taking.1.generation
    loads.length = taking.1.generation ∧
      (∃ trees, trees <+: c.started.alterations incidents ∧ opened.Tells trees
        (listings first loads) (reloadChanges loads.length) taking.1.machine) ∧
      ∀ inquiry ∈ taking.1.asks taking.2,
        inquiry.IsJudgedBy c.pipeline.classifier.identities root (inForce first loads)
  watched : (c.watch.run incidents).2.unwatch = (c.run incidents).2
  asked : (c.watch.run incidents).2.pipeline.classifier.inquiries =
    (c.started.takings incidents).flatMap fun taking ↦ taking.1.asks taking.2

theorem listsPolicy (c : Controller Engine) (opened : Machine) (engine : Engine) (root : String)
    (first : RuleSet) (incidents : List Incident) (closing : Machine)
    (hstarted : c.started.Enforces opened engine first [] []) (hroot : engine.root = some root)
    (hclosing : (c.run incidents).2.machine.Tells [] [] [] closing) :
    c.ListsPolicy opened root first incidents closing := by
  have hopen := hstarted.isOpen
  have hidentities : c.pipeline.classifier.identities = engine.identities := by
    change c.started.pipeline.classifier.identities = engine.identities
    rw [hstarted.engine]
  obtain ⟨hlast, htakings⟩ := hstarted.handleAll incidents
  simp only [List.nil_append] at hlast htakings
  have hcount : (c.started.loads incidents).length = (taken incidents).count .reload := by
    have hgeneration := (c.started.takes_handleAll hopen incidents).generation
    rw [hlast.generation, hstarted.generation, List.length_nil, Nat.zero_add] at hgeneration
    exact hgeneration
  have hshut := (c.started.handleAll incidents).2.tells_shutDown.1
  rw [hlast.phase] at hshut
  refine ⟨c.started.incidents_takings hopen incidents, hcount, ?_, rfl, ?_, ?_, ?_, ?_⟩
  · exact (c.started.handleAll incidents).2.shutDown_frame.2.1.trans (hlast.generation.trans hcount)
  · have hreceived := (hlast.tells.trans hshut).quietly hclosing
    rwa [List.append_nil, List.append_nil, hcount] at hreceived
  · intro taking htaking
    obtain ⟨trees, earlier, htrees, hprefix, henforces⟩ := htakings taking htaking
    have hearlier : (c.started.loads incidents).take taking.1.generation = earlier := by
      rw [henforces.generation]
      exact (List.prefix_iff_eq_take.1 hprefix).symm
    dsimp only
    rw [hearlier, hidentities]
    exact ⟨henforces.generation.symm, ⟨trees, htrees, henforces.tells⟩,
      henforces.isJudgedBy root hroot taking.2⟩
  · exact (congrArg Prod.snd (c.watch.run_unwatch incidents)).symm
  · exact c.inquiries_run hopen incidents

end Controller

/-- The policy that was listed last is the policy in force. After a start that succeeds, and with
the cache in use, the log receives one listing for the start and one for each reload that is
taken, each of the rules of the last load that has succeeded. Every request between two listings is
judged by the rules of the first of the two: its process is moved to the destinations that these
select. The phases change as the reloads go by. The log goes to the error output until it is
opened. -/
theorem runDaemon_lists_policy (options : Options) (environment : Environment)
    (incidents : List Incident) (m m' : Machine) (settings : Settings) (engine : Engine)
    (connector : Connector) (hdestination : m.destination = .errorOutput)
    (hstart : (Stage.startUp options environment.identities).run m =
      .ok (settings, engine, connector) m')
    (hcache : settings.useCache = true) :
    let controller : Controller Engine :=
      ⟨m', ⟨settings.processRoot, settings.useCache, engine, {}⟩, connector, 0, .running⟩
    ∃ root first opened closing,
      engine.root = some root ∧ engine.identities = environment.identities ∧
      (Engine.readRulesFile
        ⟨settings.rulesFile, settings.cgroupRoot, environment.identities, none, none⟩
        m.tree).result = .ok first ∧
      m.HasOpened opened ∧ controller.ListsPolicy opened root first incidents closing ∧
      (runDaemon options environment incidents m).2 = closing.close ∧
      m.Journals (listings first (controller.started.loads incidents))
        (reloadChanges ((Controller.taken incidents).count .reload) ++
          [(.running, .stopping), (.stopping, .stopped)])
        (runDaemon options environment incidents m).2 := by
  intro controller
  obtain ⟨root, first, hengine, hread, hopen, opened, hopened, htells⟩ :=
    Stage.startUp_eq_ok _ _ _ _ _ _ _ hdestination hstart
  have hstarted : controller.started.Enforces opened engine first [] [] := by
    refine ⟨hopen, hcache, rfl, rfl, ?_, ?_⟩
    · rw [hengine]
      exact hengine
    · exact Controller.tells_info _ htells _
  have hroot : engine.root = some root := by
    rw [hengine]
  have hclosing : ∃ closing, (runDaemon options environment incidents m).2 = closing.close ∧
      (controller.run incidents).2.machine.Tells [] [] [] closing := by
    have hrun : runDaemon options environment incidents m =
        finish environment ((controller.run incidents).1.mapError .channelLost)
          (controller.run incidents).2.machine := by
      simp only [runDaemon, hstart]
      rfl
    rw [hrun]
    cases (controller.run incidents).1 with
    | ok ended => exact ⟨_, rfl, .refl _⟩
    | error cause =>
      exact ⟨_, rfl, (Machine.Tells.refl _).log _ (isQuiet_of_target _ (by simp [Failure.report]))⟩
  obtain ⟨closing, hclosed, hclosing⟩ := hclosing
  have hlists :=
    controller.listsPolicy opened engine root first incidents closing hstarted hroot hclosing
  have hidentities : engine.identities = environment.identities := by
    rw [hengine]
  refine ⟨root, first, opened, closing, hroot, hidentities, hread, hopened, hlists, hclosed, ?_⟩
  have hended : closing.Journals [] [] closing.close := ⟨[.closed], rfl, rfl, rfl⟩
  have hjournals := (hopened.journals.trans hlists.received.journals).trans hended
  rw [List.append_nil, List.append_nil] at hjournals
  rw [hclosed]
  exact hjournals

/-- The machine that a daemon with two groups and two processes is started on. -/
def policyMachine : Machine where
  kernel := { processNumber := 1, effectiveUser := 0 }
  outlets.tree := {
    entries := [(["etc"], .directory), (["etc", "cgrules.conf"], .file (Text.encode "* * a\n")),
      (["etc", "cgrulesd.ini"], .file (Text.encode "[engine]\ncgroup_root=/cg\n")),
      (["proc"], .directory), (["proc", "100"], .directory), (["proc", "200"], .directory),
      (["proc", "100", "status"], .file (Text.encode "Uid:\t0\t1000\nGid:\t0\t50\n")),
      (["proc", "200", "status"], .file (Text.encode "Uid:\t0\t1000\nGid:\t0\t50\n")),
      (["cg"], .directory), (["cg", "a"], .directory), (["cg", "b"], .directory),
      (["cg", "a", "cgroup.procs"], .file []), (["cg", "b", "cgroup.procs"], .file [])]
    workingDirectory := [] }
  filter := .ofLevel .info

/-- A rules file that is broken before the first reload and mended before the second one, and a
channel that is lost before the third. A process changes its user behind each of the reloads. -/
def policyIncidents : List Incident :=
  let rules (text : String) : Incident :=
    .fileChange ["etc", "cgrules.conf"] (.file (Text.encode text))
  let change (process : Int32) : Incident :=
    .delivery (.datagram (Netlink.userFrame process 0 1000) (some 0))
  [rules "* *\n", .reload, change 100, rules "* * b\n", .reload, change 200,
    .delivery (.failure (.os 9)), .reload]

/-- The only rule of each of the files, but for the broken one. -/
def policyRule (destination : String) : Rule :=
  ⟨.anyone, .all, destination, false, 1⟩

/-- The first process goes where the rules of the start send it, since the first reload fails, and
the second one goes where the mended rules do. -/
theorem runDaemon_lists_policy_past_broken_rules :
    let listing (generation : Nat) (destination : String) : Nat × String :=
      (generation, s!"Rules (generation {generation}):\nRule: *\n  UID: any\n  GID: any\n" ++
        s!"  DEST: /{destination}\n  CONTROLLERS: *\n\n\n")
    let asked : List (Nat × Int32 × String) := [(1, 100, "a"), (2, 200, "b")]
    let options : Options := { nodaemon := true, nolog := true }
    let ended := runDaemon options ⟨⟨[], []⟩, none, false⟩ policyIncidents policyMachine
    ended.1 = 7 ∧
      ended.2.journal.filterMap Effect.listing? = [listing 0 "a", listing 1 "a", listing 2 "b"] ∧
      ended.2.journal.filterMap Effect.change? =
        [(.running, .reloading), (.reloading, .running), (.running, .reloading),
        (.reloading, .running), (.running, .stopping), (.stopping, .stopped)] ∧
      ended.2.tree.content? ["cg", "a", "cgroup.procs"] = some (Text.encode "100") ∧
      ended.2.tree.content? ["cg", "b", "cgroup.procs"] = some (Text.encode "200") ∧
      ∃ settings engine connector m', (Stage.startUp options ⟨[], []⟩).run policyMachine =
          .ok (settings, engine, connector) m' ∧ settings.useCache = true ∧
        let controller : Controller Engine :=
          ⟨m', ⟨settings.processRoot, settings.useCache, engine, {}⟩, connector, 0, .running⟩
        ∀ request ∈ asked,
          ∃ taking ∈ controller.started.takings policyIncidents, taking.1.generation = request.1 ∧
            ∃ inquiry ∈ taking.1.asks taking.2, inquiry.request.process = request.2.1 ∧
              inquiry.IsJudgedBy ⟨[], []⟩ "/cg" [policyRule request.2.2] := by
  intro listing asked options ended
  refine ⟨by decide +kernel, ?_⟩
  -- what the start hands over is only looked at through what is needed of it
  let started (settings : Settings) (engine : Engine) (connector : Connector) (m' : Machine) :
      Controller Engine := Controller.started
    ⟨m', ⟨settings.processRoot, settings.useCache, engine, {}⟩, connector, 0, .running⟩
  have hcheck : (match (Stage.startUp options ⟨[], []⟩).run policyMachine with
      | .ok (settings, engine, connector) m' =>
        let loads := (started settings engine connector m').loads policyIncidents
        decide (settings.useCache = true ∧ engine.root = some "/cg" ∧
          (Engine.readRulesFile ⟨settings.rulesFile, settings.cgroupRoot, ⟨[], []⟩, none, none⟩
            policyMachine.tree).result.toOption = some [policyRule "a"] ∧
          listings [policyRule "a"] loads = [listing 0 "a", listing 1 "a", listing 2 "b"]) &&
        decide (∀ request ∈ asked,
          inForce [policyRule "a"] (loads.take request.1) = [policyRule request.2.2]) &&
        decide (∀ request ∈ asked,
          ∃ taking ∈ (started settings engine connector m').takings policyIncidents,
            taking.1.generation = request.1 ∧
            ∃ inquiry ∈ taking.1.asks taking.2, inquiry.request.process = request.2.1)
      | .error _ _ => false) = true := by
    decide +kernel
  cases hstart : (Stage.startUp options ⟨[], []⟩).run policyMachine with
  | error halt m' =>
    rw [hstart] at hcheck
    cases hcheck
  | ok outcome m' =>
    obtain ⟨settings, engine, connector⟩ := outcome
    rw [hstart] at hcheck
    simp only [Bool.and_eq_true, decide_eq_true_eq] at hcheck
    obtain ⟨⟨⟨hcache, hroot, hfirst, hlisted⟩, hforce⟩, hasked⟩ := hcheck
    obtain ⟨root, first, opened, closing, hrooted, hidentities, hread, -, hlists, -, effects,
      hjournal, hlistings, hchanges⟩ := runDaemon_lists_policy options ⟨⟨[], []⟩, none, false⟩
        policyIncidents policyMachine m' settings engine connector rfl hstart hcache
    rw [hread] at hfirst
    obtain rfl : first = [policyRule "a"] := Option.some.inj hfirst
    obtain rfl : root = "/cg" := Option.some.inj (hrooted.symm.trans hroot)
    have hjournal' : ended.2.journal = effects := hjournal
    rw [hjournal', hlistings, hchanges]
    refine ⟨hlisted, by decide, by decide +kernel, by decide +kernel, settings, engine, connector,
      m', rfl, hcache, ?_⟩
    intro controller request hrequest
    obtain ⟨taking, htaking, hgeneration, inquiry, hinquiry, hprocess⟩ := hasked request hrequest
    have hjudged := (hlists.enforced taking htaking).2.2 inquiry hinquiry
    rw [hgeneration, hforce request hrequest, hidentities] at hjudged
    exact ⟨taking, htaking, hgeneration, inquiry, hinquiry, hprocess, hjudged⟩

end Daemon

end Regroup
