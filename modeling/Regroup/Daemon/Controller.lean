import Regroup.Daemon.Connector
import Regroup.Pipeline

/-!
# The controller

The controller is the daemon at work. It takes one incident at a time: a delivery from the kernel, a
request to reload the rules or to stop, or a change of a file that someone else makes. Batches from
the kernel go through the pipeline, messages of other senders are ignored. It ends at a request to
stop or when receiving fails for good, and then closes the connector.

The records of a batch are written to the log in their order, once its last event has been dealt
with. A log that goes to a file is taken to have that file for itself: only an event that reads or
writes the file as well could tell that the records before it are not there yet.

Reloads are counted without a bound, as no controller is asked for `2 ^ 64` of them.
-/

namespace Regroup.Daemon

open Log (Record)

inductive Phase where
  | running
  | reloading
  | stopping
  | stopped
deriving DecidableEq

namespace Phase

def all : List Phase := [running, reloading, stopping, stopped]

def name : Phase → String
  | running => "running"
  | reloading => "reloading"
  | stopping => "stopping"
  | stopped => "stopped"

end Phase

/-- The signals that ask the daemon to stop. -/
inductive StopSignal where
  | interrupt
  | terminate
deriving DecidableEq

def StopSignal.name : StopSignal → String
  | interrupt => "SIGINT"
  | terminate => "SIGTERM"

inductive Incident where
  | delivery (delivery : Connector.Delivery)
  | reload
  | stop (signal : StopSignal)
  | fileChange (location : Location) (entry : Entry)
deriving DecidableEq

structure Controller (σ : Type) where
  machine : Machine
  pipeline : Pipeline σ
  connector : Connector
  generation : Nat := 0
  phase : Phase := .running

namespace Controller

variable {σ : Type} [Classifier σ]

def controllerRecord (level : Log.Level) (message : String) : Record :=
  ⟨level, .controller, message⟩

def log (c : Controller σ) (level : Log.Level) (message : String) : Controller σ :=
  { c with machine := c.machine.log (controllerRecord level message) }

def enter (c : Controller σ) (phase : Phase) : Controller σ :=
  { c.log .debug s!"Daemon {c.phase.name} -> {phase.name}" with phase }

/-! ## Incidents -/

def handleBatch (c : Controller σ) (batch : Bytes) : Controller σ :=
  let handled := c.pipeline.handleBatch c.machine.tree batch
  let machine := ((c.machine.withTree handled.tree).logAll handled.records).note (.handled batch)
  { c with machine, pipeline := handled.pipeline }

def ignoreSender (c : Controller σ) (sender : Option UInt32) : Controller σ :=
  let shown := sender.elim "None" fun port ↦ s!"Some({port})"
  c.log .debug s!"Ignoring message from netlink port {shown}"

/-- Reads the rules again and lists the rules that are in force from then on. -/
def reload (c : Controller σ) : Controller σ :=
  let c := c.enter .reloading
  let generation := c.generation + 1
  let c := { c with generation }.log .info
    s!"Reloading rules configuration (generation {generation})."
  let (classifier, listing, records) :=
    reloadPolicy c.pipeline.classifier c.machine.tree generation
  let machine := ((c.machine.logAll records).list generation listing).flush
  { c with machine, pipeline := { c.pipeline with classifier } }.enter .running

/-- Whether the controller waits for the next incident, and if not, why. -/
inductive Progress (σ : Type) where
  | waits (controller : Controller σ)
  | ends (controller : Controller σ) (result : Except ChannelError Unit)

def handle (c : Controller σ) : Incident → Progress σ
  | .fileChange location entry =>
    .waits { c with machine := c.machine.withTree (c.machine.tree.install location entry) }
  | .reload => .waits c.reload
  | .stop signal => .ends (c.log .debug s!"{signal.name} received") (.ok ())
  | .delivery delivery =>
    let (received, connector, machine) := c.connector.receive delivery c.machine
    let c := { c with connector, machine }
    match received with
    | .error cause => .ends c (.error cause)
    | .ok none => .waits c
    | .ok (some (batch, sender)) =>
      .waits (if Netlink.isFromKernel sender then c.handleBatch batch else c.ignoreSender sender)

/-- Takes incidents until one of them ends the daemon; after the last one it is asked to stop. -/
def handleAll (c : Controller σ) : List Incident → Except ChannelError Unit × Controller σ
  | [] => (.ok (), c.log .debug s!"{StopSignal.terminate.name} received")
  | incident :: rest =>
    match c.handle incident with
    | .waits c => c.handleAll rest
    | .ends c result => (result, c)

/-! ## The end -/

def shutDown (c : Controller σ) : Controller σ :=
  let c := c.enter .stopping
  let c := c.log .info "Stopped CGroup Rules Engine Daemon"
  let c := c.log .info
    s!"Processed {c.pipeline.stats.text} with {c.generation} rule reloads"
  let overruns := c.connector.overruns
  let c := if 0 < overruns then c.log .info s!"{overruns} kernel buffer overruns" else c
  let (connector, machine) := c.connector.close c.machine
  { c with connector, machine := machine.flush }.enter .stopped

def run (c : Controller σ) (incidents : List Incident) : Except ChannelError Unit × Controller σ :=
  let c := c.log .info "Started the CGroup Rules Engine Daemon."
  let (result, c) := c.handleAll incidents
  (result, c.shutDown)

end Controller

end Regroup.Daemon
