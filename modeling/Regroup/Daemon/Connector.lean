import Regroup.Config.Settings
import Regroup.Daemon.Host
import Regroup.Netlink.Frame
import Regroup.Netlink.Receive

/-!
# The process events connector

A connector is a subscription to the process events of the kernel. Opening it binds a socket to the
number of the process and sends one listen message; closing it sends one ignore message, whatever
comes of it, and closing it again does nothing. Opening either gives a connector or leaves nothing
behind that would have to be closed.

The receive buffer is set up at the very end of opening. Its size is that of the configuration, and
a size that cannot be had is no failure of the connector but the end of the process: it is neither
unsubscribed nor is its log closed.

An overrun is counted when a receive reports it. No connector lives to see `2 ^ 64` of them, so the
count has no bound.
-/

namespace Regroup.Daemon

open Log (Record)
open Netlink (ReceiveOutcome Subscription)

inductive ChannelError where
  | unavailable (cause : SystemError)
  | subscribeFailed (reason : String) (cause : Option SystemError)
  | receive (cause : SystemError)
  | closed
deriving DecidableEq

namespace ChannelError

def message : ChannelError → String
  | unavailable _ => "process events connector unavailable"
  | subscribeFailed reason _ => s!"subscribing to process events failed: {reason}"
  | receive _ => "receiving from process events connector failed"
  | closed => "process events connector already closed"

def sources : ChannelError → List String
  | unavailable cause | receive cause => [cause.message]
  | subscribeFailed _ cause => (cause.map SystemError.message).toList
  | closed => []

end ChannelError

/-- Why there is no connector. -/
inductive OpenFailure where
  | error (cause : ChannelError)
  | crash (crash : Crash)
deriving DecidableEq

structure Connector where
  port : UInt32
  bufferSize : Nat
  overruns : Nat := 0
  isOpen : Bool := true
deriving DecidableEq

namespace Connector

def channelRecord (level : Log.Level) (message : String) : Record :=
  ⟨level, .channel, message⟩

/-! ## Opening -/

/-- Asks for a larger queue, and does without it if that is refused. -/
def requestQueue (size : Nat) (m : Machine) : Machine :=
  match m.call (.setReceiveQueue size) with
  | (none, m) => m
  | (some code, m) =>
    m.log (channelRecord .warn
      s!"Could not set socket receive buffer to {size} bytes: {Errno.glossOf code}")

/-- Sends the listen message, which has to leave as a whole. -/
def subscribe (port : UInt32) (m : Machine) : Except ChannelError Unit × Machine :=
  let message := Subscription.listen.message port
  let size := message.length
  let m := m.log (channelRecord .debug
    s!"Sending proc connector PROC_CN_MCAST_LISTEN, netlink message len={size}")
  let (failure, m) := m.call (.send message)
  match failure with
  | some code =>
    let cause : SystemError := .os (Errno.recognized code)
    (.error (.subscribeFailed "control message rejected" (some cause)), m)
  | none =>
    let sent := m.kernel.sentBytes.getD size
    if sent = size then (.ok (), m)
    else (.error (.subscribeFailed s!"short send of {sent}/{size} bytes" none), m)

/-- Binds a socket and subscribes with it. -/
def listen (options : Config.ChannelOptions) (m : Machine) : Except ChannelError Unit × Machine :=
  let port := m.kernel.processNumber
  let (failure, m) := m.call .openSocket
  match failure with
  | some code => (.error (.unavailable (.os code)), m)
  | none =>
    let (failure, m) := m.call (.bindSocket port)
    match failure with
    | some code => (.error (.unavailable (.os (Errno.recognized code))), m)
    | none =>
      let m := options.socketBuffer.elim m fun size ↦ requestQueue size m
      match subscribe port m with
      | (.error cause, m) => (.error cause, m)
      | (.ok _, m) =>
        match m.kernel.watchFailure with
        | some code => (.error (.unavailable (.os code)), m)
        | none =>
          (.ok (), m.log (channelRecord .info
            s!"Listening for process events on netlink port {port}"))

/-- Listens first, and sets up the receive buffer behind that. -/
def openFor (options : Config.ChannelOptions) (m : Machine) :
    Except OpenFailure Connector × Machine :=
  let size := max options.receiveBuffer Config.Settings.minReceiveBuffer
  match listen options m with
  | (.error cause, m) => (.error (.error cause), m)
  | (.ok _, m) =>
    match m.kernel.crash? size with
    | some crash => (.error (.crash crash), m)
    | none => (.ok ⟨m.kernel.processNumber, size, 0, true⟩, m)

/-! ## Receiving and closing -/

/-- What the kernel delivers when the daemon waits. -/
inductive Delivery where
  | datagram (bytes : Bytes) (sender : Option UInt32)
  | failure (cause : SystemError)
deriving DecidableEq

/-- The result of the receive call: what does not fit into the buffer is cut off. -/
def Delivery.result (bufferSize : Nat) : Delivery → Except SystemError (Nat × Option UInt32)
  | datagram bytes sender => .ok (min bytes.length bufferSize, sender)
  | failure cause => .error cause.recognized

def Delivery.bytes : Delivery → Bytes
  | datagram bytes _ => bytes
  | failure _ => []

/-- What a delivery gives: a batch with its sender, or nothing yet. -/
abbrev Received := Option (Bytes × Option UInt32)

/-- Overruns are counted. Where the call would have blocked there is nothing to log. -/
def receive (connector : Connector) (delivery : Delivery) (m : Machine) :
    Except ChannelError Received × Connector × Machine :=
  if connector.isOpen then
    match ReceiveOutcome.ofResult (delivery.result connector.bufferSize) with
    | .batch length sender => (.ok (some (delivery.bytes.take length, sender)), connector, m)
    | .retry .bufferOverrun =>
      let overruns := connector.overruns + 1
      let m := m.log (channelRecord .warn
        s!"Netlink buffer full, process events dropped ({overruns} overruns so far)")
      (.ok none, { connector with overruns }, m)
    | .retry .wouldBlock => (.ok none, connector, m)
    | .retry reason =>
      (.ok none, connector, m.log (channelRecord .trace s!"Retrying receive: {reason.name}"))
    | .fatal cause => (.error (.receive cause), connector, m)
  else (.error .closed, connector, m)

def close (connector : Connector) (m : Machine) : Connector × Machine :=
  if connector.isOpen then
    let m :=
      match m.call (.send (Subscription.ignore.message connector.port)) with
      | (none, m) => m
      | (some code, m) =>
        m.log (channelRecord .debug
          s!"Sending PROC_CN_MCAST_IGNORE failed: {Errno.glossOf code}")
    ({ connector with isOpen := false },
      m.log (channelRecord .debug "Process events connector closed"))
  else (connector, m)

end Connector

end Regroup.Daemon
