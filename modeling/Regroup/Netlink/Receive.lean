import Regroup.Netlink.Record
import Regroup.SystemError

/-!
# Receiving datagrams

A receive call either delivers a datagram with the port of its sender or fails. Some failures and
all datagrams too short for a frame only mean that the call has to be made again.
-/

namespace Regroup.Netlink

inductive RetryReason where
  | bufferOverrun
  | interrupted
  | wouldBlock
  | short (length : Nat)
deriving DecidableEq

def RetryReason.name : RetryReason → String
  | bufferOverrun => "BufferOverrun"
  | interrupted => "Interrupted"
  | wouldBlock => "WouldBlock"
  | short length => s!"Short({length})"

/-- What a receive call means for the connector. -/
inductive ReceiveOutcome where
  | batch (length : Nat) (sender : Option UInt32)
  | retry (reason : RetryReason)
  | fatal (cause : SystemError)
deriving DecidableEq

def ReceiveOutcome.ofFailure (cause : SystemError) : ReceiveOutcome :=
  match cause.code? with
  | none => .fatal cause
  | some code =>
    if code = Errno.noBufferSpace then .retry .bufferOverrun
    else if code = Errno.interrupted then .retry .interrupted
    else if code = Errno.wouldBlock then .retry .wouldBlock
    else .fatal cause

def ReceiveOutcome.ofResult : Except SystemError (Nat × Option UInt32) → ReceiveOutcome
  | .ok (length, sender) =>
    if length < FrameHeader.size then .retry (.short length) else .batch length sender
  | .error cause => .ofFailure cause

/-- Datagrams of the kernel come from port zero, or from no port at all. -/
def isFromKernel (sender : Option UInt32) : Bool :=
  sender.all (· == 0)

end Regroup.Netlink
