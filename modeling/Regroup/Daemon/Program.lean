import Regroup.CommandLine
import Regroup.Config.Settings
import Regroup.Daemon.Controller
import Regroup.Daemon.Failure
import Regroup.Engine

/-!
# The program

The daemon starts in stages: it has to be root, reads its configuration, sets up the rules engine,
opens its log, goes into the background if it is to, takes over its signals, lists its rules, and
subscribes to the process events. The first stage that fails ends it and none of the later ones is
begun. Once all have succeeded the controller takes over.

Until the log is opened, records go to the error output. Where the last stage crashes, the process
ends there and then. What is said of that on the error output comes from no part of the program and
is left out.
-/

namespace Regroup.Daemon

open CommandLine (Options)
open Config (Configuration Settings)
open Log (Filter Record)

/-- Why starting up came to an end before the controller took over. -/
inductive Halt where
  | failed (failure : Failure)
  | crashed (crash : Crash)
  | isParent
deriving DecidableEq

def Halt.ofOpenFailure : OpenFailure → Halt
  | .error cause => .failed (.channelOpen cause)
  | .crash crash => .crashed crash

/-- A stage either gives its result or halts the start, and changes the machine in both cases. -/
abbrev Stage := EStateM Halt Machine

namespace Stage

def log (level : Log.Level) (message : String) : Stage Unit :=
  modify fun m ↦ m.log ⟨level, .daemon, message⟩

def logAll (records : List Record) : Stage Unit :=
  modify fun m ↦ m.logAll records

/-- Takes a result as that of the stage. -/
def settle {ε α : Type} (halt : ε → Halt) (result : Except ε α) : Stage α :=
  match result with
  | .ok value => pure value
  | .error cause => throw (halt cause)

/-- Runs a step that answers with the machine it leaves. -/
def step {ε α : Type} (halt : ε → Halt) (run : Machine → Except ε α × Machine) : Stage α := do
  let (result, m) := run (← get)
  set m
  settle halt result

/-- A call that the start depends on. -/
def call (failure : SystemError → Failure) (c : SystemCall) : Stage Unit :=
  step (.failed ∘ failure) fun m ↦
    match m.call c with
    | (none, m) => (.ok (), m)
    | (some code, m) => (.error (.os code), m)

/-! ## The stages -/

def requireRoot : Stage Unit := do
  let m ← get
  if m.kernel.effectiveUser = 0 then return ()
  else throw (.failed .notRoot)

def loadSettings (options : Options) : Stage Settings := do
  let m ← get
  let loading := Configuration.load m.tree options.config
  logAll loading.records
  let config ← settle (.failed ∘ .configuration) loading.result
  let settings ← settle (.failed ∘ .configuration) (Settings.resolve config options)
  log .debug s!"Effective settings: {settings.text}"
  return settings

/-- An engine with its root settled and its rules in the cache. -/
def startEngine (settings : Settings) (identities : Identities) : Stage Engine := do
  let m ← get
  let engine : Engine := ⟨settings.rulesFile, settings.cgroupRoot, identities, none, none⟩
  let rooted := engine.init m.tree
  logAll rooted.records
  settle (.failed ∘ .engine) rooted.result
  let loaded := rooted.state.load m.tree
  logAll loaded.records
  settle (.failed ∘ .engine) loaded.result
  return loaded.state

/-- Points the log to its file. A file that cannot be opened is no reason to stop: the log then goes
to the standard output, as it does without logging. -/
def openLog (settings : Settings) (m : Machine) : Machine :=
  let daemonRecord (message : String) : Record := ⟨.info, .daemon, message⟩
  if settings.logging then
    match m.tree.openForAppending settings.logFile with
    | .ok (location, tree) =>
      let m := { m.withTree tree with destination := .file location }
      (m.print s!"Opened log file: {settings.logFile}\n").log
        (daemonRecord "CGroup Rules Engine Daemon")
    | .error cause =>
      let m := m.printError (s!"Failed to open log file {settings.logFile}, " ++
        s!"error: {cause.message}. Continuing anyway.\n")
      { m with destination := .output }.log
        (daemonRecord "Proceeding with stdout as log output.")
  else
    { m with destination := .output }.log
      (daemonRecord "Logging disabled, proceeding with stdout as log output.")

def daemonize : Stage Unit := do
  let m ← get
  match ← step (.failed ∘ .background) (enterBackground (m.destination == .output)) with
  | .goesOn => return ()
  | .isParent => throw .isParent

def listRules (engine : Engine) (m : Machine) : Machine :=
  (m.list 0 s!"Rules (generation 0):\n{engine.listing}\n").flush

def startUp (options : Options) (identities : Identities) : Stage (Settings × Engine × Connector) :=
  do
  log .trace s!"cgrulesd options: {Config.optionsText options}"
  requireRoot
  let settings ← loadSettings options
  let engine ← startEngine settings identities
  modify (openLog settings)
  if settings.daemonize then daemonize
  let m ← get
  log .info s!"Proceeding with PID {m.kernel.processNumber}"
  call .signals .startEventLoop
  call .signals .handleSignals
  modify (listRules engine)
  let connector ← step .ofOpenFailure (Connector.openFor settings.channel)
  log .debug s!"Subscribed to process events as netlink port {connector.port}"
  return (settings, engine, connector)

end Stage

/-! ## From start to end -/

/-- What the daemon is started with besides its command line. -/
structure Environment where
  identities : Identities
  logSpecification : Option String := none
  wantsBacktrace : Bool := false

/-- The filter of a run. A specification in the environment takes the place of the level that the
command line asks for. -/
def Environment.filter (environment : Environment) (options : Options) : Filter × List String :=
  match environment.logSpecification with
  | some specification => Filter.read specification
  | none => (Filter.ofLevel options.level, [])

/-- Logs a failure and releases the log. -/
def finish (environment : Environment) (result : Except Failure Unit) (m : Machine) :
    Nat × Machine :=
  match result with
  | .ok _ => (0, m.close)
  | .error failure =>
    let inDetail := Log.Level.debug.rank ≤ m.filter.rank || environment.wantsBacktrace
    (failure.exitCode, (m.log (failure.report inDetail)).close)

/-- Runs the daemon through a sequence of incidents. A parent process ends at once and leaves the
log to its child, and a process that crashes leaves its log as it is. -/
def runDaemon (options : Options) (environment : Environment) (incidents : List Incident)
    (m : Machine) : Nat × Machine :=
  match (Stage.startUp options environment.identities).run m with
  | .error .isParent m => (0, m)
  | .error (.crashed crash) m => (crash.exitStatus, m)
  | .error (.failed failure) m => finish environment (.error failure) m
  | .ok (settings, engine, connector) m =>
    let pipeline : Pipeline Engine := ⟨settings.processRoot, settings.useCache, engine, {}⟩
    let controller : Controller Engine := ⟨m, pipeline, connector, 0, .running⟩
    let (result, controller) := controller.run incidents
    finish environment (result.mapError .channelLost) controller.machine

/-- Runs the whole program: its exit status and the machine that it leaves. -/
def runProgram (program : String) (arguments : List String) (environment : Environment)
    (kernel : Kernel) (tree : FileTree) (incidents : List Incident) : Nat × Machine :=
  match CommandLine.read arguments with
  | .error ending =>
    let m : Machine := { kernel, outlets := { tree }, filter := Filter.ofLevel .info }
    let text := ending.text program
    (ending.exitCode, if ending.exitCode = 0 then m.print text else m.printError text)
  | .ok options =>
    let (filter, faults) := environment.filter options
    let warnings := faults.map fun fault ↦ s!"warning: {fault}\n"
    let m : Machine := { kernel, outlets := { tree }, filter }
    runDaemon options environment incidents (warnings.foldl Machine.printError m)

end Regroup.Daemon
