import Regroup.Log.Filter
import Regroup.Log.Sink

/-!
# The host of the daemon

The daemon asks the kernel for a few things, and each of them may fail. Which ones do is fixed by a
`Kernel`, so a run is a function of it. The state of a run is a `Machine`: the files, the standard
streams, the destination of the log, and a journal of what the daemon has done so far, in order.
-/

namespace Regroup.Daemon

open Log (Destination Filter Outlets Record)

/-- The standard streams by their descriptors. -/
inductive StandardStream where
  | input
  | output
  | errorOutput
deriving DecidableEq

def StandardStream.descriptor : StandardStream → Nat
  | input => 0
  | output => 1
  | errorOutput => 2

inductive SystemCall where
  | openSocket
  | bindSocket (port : UInt32)
  | setReceiveQueue (size : Nat)
  | send (message : Bytes)
  | startEventLoop
  | handleSignals
  | fork
  | clearFileMask
  | newSession
  | enterRootDirectory
  | openNullDevice
  | redirect (stream : StandardStream)
  | closeNullDevice
deriving DecidableEq

namespace SystemCall

/-- How a trace of the kernel shows a call that it notes whether it succeeds or not. -/
def requestText? : SystemCall → Option String
  | openSocket => some "socket netlink 0x80802 11"
  | bindSocket port => some s!"bind pid={port} groups=1"
  | setReceiveQueue size => some s!"setsockopt 1 33 {Int32.ofNat size}"
  | send message => some s!"send {message.toHex}"
  | _ => none

/-- How a trace of the kernel shows a call that it notes only once it has succeeded. -/
def successText? : SystemCall → Option String
  | clearFileMask => some "umask 0"
  | newSession => some "setsid"
  | enterRootDirectory => some "chdir /"
  | redirect stream => some s!"dup2 to {stream.descriptor}"
  | _ => none

end SystemCall

/-- `parentOf` is the number of the child process where forking continues as the parent,
`sentBytes` how many bytes a send reports where it does not report all of them, and `watchFailure`
why the event loop does not take the socket where it does not. `memory` is the largest block that
the process is given, which is never more than it can address. -/
structure Kernel where
  processNumber : UInt32
  effectiveUser : UInt32
  failure : SystemCall → Option Int := fun _ ↦ none
  parentOf : Option Int32 := none
  sentBytes : Option Nat := none
  watchFailure : Option Int := none
  memory : Nat := 0x800000000000

/-- How a process ends that asks for a block of memory and does not get it. -/
inductive Crash where
  | capacityOverflow
  | outOfMemory
deriving DecidableEq

/-- A panic has an exit status of its own, and an abort shows as that of its signal. -/
def Crash.exitStatus : Crash → Nat
  | capacityOverflow => 101
  | outOfMemory => 134

/-- The length of a block is a signed number, whatever the memory of the machine. -/
def maxBlockSize : Nat :=
  0x7FFFFFFFFFFFFFFF

/-- What asking for a block ends in that cannot be had. -/
def Kernel.crash? (kernel : Kernel) (size : Nat) : Option Crash :=
  if maxBlockSize < size then some .capacityOverflow
  else if kernel.memory < size then some .outOfMemory
  else none

/-- Something that the daemon has done. Records are journalled also where the filter holds them
back. -/
inductive Effect where
  | called (call : SystemCall) (failure : Option Int)
  | logged (record : Record)
  | listed (generation : Nat) (listing : String)
  | handled (batch : Bytes)
  | flushed
  | closed
deriving DecidableEq

/-- How a trace of the kernel shows an effect. -/
def Effect.callText? : Effect → Option String
  | called call failure =>
    call.requestText?.or (if failure.isNone then call.successText? else none)
  | logged _ | listed _ _ | handled _ | flushed | closed => none

/-- `inBackground` says that background mode was asked for before. -/
structure Machine where
  kernel : Kernel
  outlets : Outlets
  filter : Filter
  destination : Destination := .errorOutput
  inBackground : Bool := false
  journal : List Effect := []

namespace Machine

def tree (m : Machine) : FileTree :=
  m.outlets.tree

def withTree (m : Machine) (tree : FileTree) : Machine :=
  { m with outlets := { m.outlets with tree } }

def note (m : Machine) (effect : Effect) : Machine :=
  { m with journal := m.journal ++ [effect] }

/-! ## Output -/

/-- Writes to the log as it stands. -/
def write (m : Machine) (text : String) : Machine :=
  { m with outlets := m.outlets.write m.destination (Text.encode text) }

def log (m : Machine) (record : Record) : Machine :=
  let m := m.note (.logged record)
  if m.filter.passes record then m.write record.line else m

def logAll (m : Machine) (records : List Record) : Machine :=
  records.foldl log m

/-- Writes a listing of the rules, which no filter holds back. -/
def list (m : Machine) (generation : Nat) (listing : String) : Machine :=
  (m.write listing).note (.listed generation listing)

def flush (m : Machine) : Machine :=
  m.note .flushed

def close (m : Machine) : Machine :=
  { m with destination := .closed }.note .closed

def print (m : Machine) (text : String) : Machine :=
  { m with outlets := m.outlets.write .output (Text.encode text) }

def printError (m : Machine) (text : String) : Machine :=
  { m with outlets := m.outlets.write .errorOutput (Text.encode text) }

/-! ## Calls -/

/-- What a successful call changes. -/
def afterSuccess (m : Machine) : SystemCall → Machine
  | .enterRootDirectory => m.withTree { m.tree with workingDirectory := [] }
  | .redirect .output =>
    { m with outlets.output.isCutOff := true }
  | .redirect .errorOutput =>
    { m with outlets.errorOutput.isCutOff := true }
  | _ => m

def nullDevicePath : String := "/dev/null"

/-- A call that opens a file also fails where the file cannot be opened. -/
def obstacle (m : Machine) : SystemCall → Option Int
  | .openNullDevice =>
    match m.tree.openForWriting nullDevicePath with
    | .ok _ => none
    | .error cause => cause.code?
  | _ => none

/-- Makes a call and tells why it failed, if it did. -/
def call (m : Machine) (c : SystemCall) : Option Int × Machine :=
  let failure := (m.kernel.failure c).or (m.obstacle c)
  let m := m.note (.called c failure)
  (failure, if failure.isNone then m.afterSuccess c else m)

/-- The trace of the kernel. -/
def callTexts (m : Machine) : List String :=
  m.journal.filterMap Effect.callText?

end Machine

end Regroup.Daemon
