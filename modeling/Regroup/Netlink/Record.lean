import Regroup.Bytes

/-!
# Kernel records

A netlink frame starts with a frame header. Frames of the connector carry a connector header and
its data; the data of a process event is an event header and, for a change of identity, the
identity record.

    frame header      length 4, kind 2, flags 2, sequence 4, port 4
    connector header  index 4, value 4, sequence 4, acknowledgement 4, length 2, flags 2
    event header      what 4, processor 4, nanoseconds 8
    identity record   process 4, thread group 4, real 4, effective 4

A record is read from the start of a byte string that may be longer. A byte string that is too
short is the only fault, whatever the record holds.
-/

namespace Regroup.Netlink

inductive RecordKind where
  | frameHeader
  | connectorHeader
  | eventHeader
  | identityRecord
  | connectorData
deriving DecidableEq

def RecordKind.name : RecordKind → String
  | frameHeader => "nlmsghdr"
  | connectorHeader => "cn_msg"
  | eventHeader => "proc_event"
  | identityRecord => "id_proc_event"
  | connectorData => "cn_msg data"

inductive WireError where
  | truncated (record : RecordKind) (needed available : Nat)
  | badLength (record : RecordKind) (declared : Nat)
deriving DecidableEq

def WireError.message : WireError → String
  | truncated record needed available =>
    s!"{record.name} truncated: {needed} bytes needed, {available} available"
  | badLength record declared => s!"{record.name} declares invalid length {declared}"

/-- Fails unless a record of the given size is there. -/
def require (record : RecordKind) (size : Nat) (bs : Bytes) : Except WireError Unit :=
  if bs.shorterThan size then .error (.truncated record size bs.length) else .ok ()

structure FrameHeader where
  length : UInt32
  kind : UInt16
  flags : UInt16
  sequence : UInt32
  port : UInt32
deriving DecidableEq

namespace FrameHeader

def size : Nat := 16

def ofBytes (bs : Bytes) : FrameHeader :=
  ⟨bs.word32At 0, bs.word16At 4, bs.word16At 6, bs.word32At 8, bs.word32At 12⟩

def parse (bs : Bytes) : Except WireError FrameHeader := do
  require .frameHeader size bs
  return ofBytes bs

def toBytes (h : FrameHeader) : Bytes :=
  Bytes.ofWord32 h.length ++ Bytes.ofWord16 h.kind ++ Bytes.ofWord16 h.flags ++
    Bytes.ofWord32 h.sequence ++ Bytes.ofWord32 h.port

end FrameHeader

structure ConnectorHeader where
  index : UInt32
  value : UInt32
  sequence : UInt32
  acknowledgement : UInt32
  length : UInt16
  flags : UInt16
deriving DecidableEq

namespace ConnectorHeader

def size : Nat := 20

def ofBytes (bs : Bytes) : ConnectorHeader :=
  ⟨bs.word32At 0, bs.word32At 4, bs.word32At 8, bs.word32At 12, bs.word16At 16, bs.word16At 18⟩

def parse (bs : Bytes) : Except WireError ConnectorHeader := do
  require .connectorHeader size bs
  return ofBytes bs

def toBytes (h : ConnectorHeader) : Bytes :=
  Bytes.ofWord32 h.index ++ Bytes.ofWord32 h.value ++ Bytes.ofWord32 h.sequence ++
    Bytes.ofWord32 h.acknowledgement ++ Bytes.ofWord16 h.length ++ Bytes.ofWord16 h.flags

/-- The header of a message between the process events connector and its listeners. -/
def ofProcess (length : UInt16) : ConnectorHeader :=
  ⟨1, 1, 0, 0, length, 0⟩

def isProcess (h : ConnectorHeader) : Bool :=
  h.index == 1 && h.value == 1

end ConnectorHeader

structure EventHeader where
  what : UInt32
  processor : UInt32
  nanoseconds : UInt64
deriving DecidableEq

namespace EventHeader

def size : Nat := 16

def ofBytes (bs : Bytes) : EventHeader :=
  ⟨bs.word32At 0, bs.word32At 4, bs.word64At 8⟩

def parse (bs : Bytes) : Except WireError EventHeader := do
  require .eventHeader size bs
  return ofBytes bs

def toBytes (h : EventHeader) : Bytes :=
  Bytes.ofWord32 h.what ++ Bytes.ofWord32 h.processor ++ Bytes.ofWord64 h.nanoseconds

end EventHeader

/-- The identities are user or group numbers, as the event header says. -/
structure IdentityRecord where
  process : Int32
  threadGroup : Int32
  real : UInt32
  effective : UInt32
deriving DecidableEq

namespace IdentityRecord

def size : Nat := 16

def ofBytes (bs : Bytes) : IdentityRecord :=
  ⟨(bs.word32At 0).toInt32, (bs.word32At 4).toInt32, bs.word32At 8, bs.word32At 12⟩

def parse (bs : Bytes) : Except WireError IdentityRecord := do
  require .identityRecord size bs
  return ofBytes bs

def toBytes (r : IdentityRecord) : Bytes :=
  Bytes.ofWord32 r.process.toUInt32 ++ Bytes.ofWord32 r.threadGroup.toUInt32 ++
    Bytes.ofWord32 r.real ++ Bytes.ofWord32 r.effective

end IdentityRecord

end Regroup.Netlink
