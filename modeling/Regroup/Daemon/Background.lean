import Regroup.Daemon.Host

/-!
# Background mode

Entering background mode forks and detaches the child from the terminal step by step. The first step
that fails ends it. Background mode is entered at most once: asking again does nothing, also if the
first time ended early.

The standard streams are open when the program starts, so that their descriptors are taken and the
null device gets one above them. It is therefore always closed after the redirections.
-/

namespace Regroup.Daemon

open Log (Record)

structure BackgroundError where
  step : String
  code : Int
deriving DecidableEq

namespace BackgroundError

def message (e : BackgroundError) : String :=
  s!"{e.step} failed while entering background mode"

def sources (e : BackgroundError) : List String :=
  [Errno.glossOf e.code]

end BackgroundError

/-- Whether this process goes on or was the parent of the one that does. -/
inductive Continuation where
  | goesOn
  | isParent
deriving DecidableEq

/-- The standard output is kept where the log goes there. -/
def redirectedStreams (keepOutput : Bool) : List StandardStream :=
  if keepOutput then [.input, .errorOutput] else [.input, .errorOutput, .output]

/-- The calls that detach the child, with the names under which their failures are reported. -/
def detachingSteps (keepOutput : Bool) : List (SystemCall × String) :=
  [(.newSession, "setsid"), (.enterRootDirectory, "chdir"),
    (.openNullDevice, "opening /dev/null")] ++
  (redirectedStreams keepOutput).map (fun stream ↦
    (.redirect stream, "redirecting standard streams")) ++
  [(.closeNullDevice, "closing /dev/null")]

/-- Makes calls up to the first that fails. -/
def callInTurn : List (SystemCall × String) → Machine → Except BackgroundError Unit × Machine
  | [], m => (.ok (), m)
  | (call, step) :: rest, m =>
    match m.call call with
    | (some code, m) => (.error ⟨step, code⟩, m)
    | (none, m) => callInTurn rest m

/-- What the parent does before it ends. -/
def bidFarewell (child : Int32) (m : Machine) : Machine :=
  (m.log ⟨.debug, .background, s!"Forked daemon child {child}"⟩).print
    "Starting in daemon mode.\n"

/-- Clearing the file mask cannot fail. -/
def detach (keepOutput : Bool) (m : Machine) : Except BackgroundError Unit × Machine :=
  callInTurn (detachingSteps keepOutput) (m.note (.called .clearFileMask none))

def enterBackground (keepOutput : Bool) (m : Machine) :
    Except BackgroundError Continuation × Machine :=
  if m.inBackground then (.ok .goesOn, m)
  else
    let (failure, m) := { m with inBackground := true }.call .fork
    match failure with
    | some code => (.error ⟨"fork", code⟩, m)
    | none =>
      match m.kernel.parentOf with
      | some child => (.ok .isParent, bidFarewell child m)
      | none =>
        let (result, m) := detach keepOutput m
        (result.map fun _ ↦ .goesOn, m)

end Regroup.Daemon
