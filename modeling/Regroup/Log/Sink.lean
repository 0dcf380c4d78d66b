import Regroup.FileTree

/-!
# Log sinks

A sink is the destination of a log: one of the standard streams, a file that is appended to, or
nowhere once it is closed. Handles on a sink share it, so redirecting or closing it through one of
them does so for all. Opening a file that cannot be opened leaves the sink where it was.
-/

namespace Regroup.Log

inductive Destination where
  | errorOutput
  | output
  | file (location : Location)
  | closed
deriving DecidableEq

/-- What has arrived on a standard stream. Once it is cut off nothing more arrives. -/
structure Stream where
  content : Bytes := []
  isCutOff : Bool := false
deriving DecidableEq

def Stream.write (stream : Stream) (bytes : Bytes) : Stream :=
  if stream.isCutOff then stream else { stream with content := stream.content ++ bytes }

/-- Everything that can be written to. -/
structure Outlets where
  tree : FileTree
  output : Stream := {}
  errorOutput : Stream := {}
deriving DecidableEq

/-- The standard output is buffered by lines, and what follows the last line end has to fit into the
buffer. -/
def lineBufferSize : Nat := 1024

/-- How many bytes a single write takes. The standard output takes the lines alone where the rest is
too long for its buffer. -/
def Destination.accepted (destination : Destination) (bytes : Bytes) : Nat :=
  let rest := (bytes.reverse.takeWhile (· ≠ 10)).length
  if destination = .output && rest < bytes.length && lineBufferSize ≤ rest then
    bytes.length - rest
  else bytes.length

def Outlets.write (outlets : Outlets) (destination : Destination) (bytes : Bytes) : Outlets :=
  match destination with
  | .errorOutput => { outlets with errorOutput := outlets.errorOutput.write bytes }
  | .output => { outlets with output := outlets.output.write bytes }
  | .file location => { outlets with tree := outlets.tree.append location bytes }
  | .closed => outlets

/-! ## Handles -/

/-- `handles` says for each handle which of the sinks it is on. -/
structure SinkStore where
  outlets : Outlets
  sinks : List Destination
  handles : List Nat
deriving DecidableEq

inductive SinkOperation where
  | fresh
  | clone (handle : Nat)
  | openFile (handle : Nat) (path : String)
  | useOutput (handle : Nat)
  | write (handle : Nat) (bytes : Bytes)
  | flush (handle : Nat)
  | close (handle : Nat)
deriving DecidableEq

namespace SinkStore

/-- One handle on a sink that writes to the error output. -/
def start (tree : FileTree) : SinkStore :=
  ⟨{ tree }, [.errorOutput], [0]⟩

def sinkOf (store : SinkStore) (handle : Nat) : Nat :=
  store.handles.getD handle 0

/-- A handle that does not exist is on no sink and discards what is written. -/
def destination (store : SinkStore) (handle : Nat) : Destination :=
  ((store.handles[handle]?).bind fun sink ↦ store.sinks[sink]?).getD .closed

def redirect (store : SinkStore) (handle : Nat) (destination : Destination) : SinkStore :=
  { store with sinks := store.sinks.set (store.sinkOf handle) destination }

/-- Writing reports the number of bytes taken, also where they are discarded. -/
def apply (store : SinkStore) : SinkOperation → Except SystemError (Option Nat) × SinkStore
  | .fresh =>
    (.ok none,
      { store with
        sinks := store.sinks ++ [.errorOutput]
        handles := store.handles ++ [store.sinks.length] })
  | .clone handle =>
    (.ok none, { store with handles := store.handles ++ [store.sinkOf handle] })
  | .openFile handle path =>
    match store.outlets.tree.openForAppending path with
    | .error cause => (.error cause, store)
    | .ok (location, tree) =>
      (.ok none,
        { store with outlets := { store.outlets with tree } }.redirect handle (.file location))
  | .useOutput handle => (.ok none, store.redirect handle .output)
  | .write handle bytes =>
    let destination := store.destination handle
    let count := destination.accepted bytes
    (.ok (some count),
      { store with outlets := store.outlets.write destination (bytes.take count) })
  | .flush _ => (.ok none, store)
  | .close handle => (.ok none, store.redirect handle .closed)

/-- For each handle whether its sink is the standard output and whether it is closed. -/
def states (store : SinkStore) : List (Bool × Bool) :=
  (List.range store.handles.length).map fun handle ↦
    let destination := store.destination handle
    (destination == .output, destination == .closed)

end SinkStore

end Regroup.Log
