import Regroup.Netlink.Record

/-!
# Netlink frames

Frames are padded with zeros to a multiple of four bytes, and the length that a frame declares
does not count the padding. `connectorFrame` builds a frame around connector data of any length;
the subscription messages and the event frames are special cases of it.
-/

namespace Regroup.Netlink

/-! ## Frame kinds and event codes -/

def noopKind : UInt16 := 1
def errorKind : UInt16 := 2
def doneKind : UInt16 := 3
def overrunKind : UInt16 := 4

def userChanged : UInt32 := 0x4
def groupChanged : UInt32 := 0x40

/-- The least multiple of four that is not below a length. -/
def align (length : Nat) : Nat :=
  (length + 3) / 4 * 4

/-! ## Building frames -/

/-- A connector length field holds at most 65535; longer data declares that. -/
def connectorFrame (kind : UInt16) (port : UInt32) (data : Bytes) : Bytes :=
  let length := FrameHeader.size + ConnectorHeader.size + data.length
  let header : FrameHeader := ⟨UInt32.ofNat length, kind, 0, 0, port⟩
  let connector := ConnectorHeader.ofProcess (UInt16.ofNat (min data.length 65535))
  header.toBytes ++ connector.toBytes ++ data ++ List.replicate (align length - length) 0

/-- What a listener asks the connector for. -/
inductive Subscription where
  | listen
  | ignore
deriving DecidableEq

def Subscription.code : Subscription → UInt32
  | listen => 1
  | ignore => 2

def Subscription.message (subscription : Subscription) (port : UInt32) : Bytes :=
  connectorFrame doneKind port (Bytes.ofWord32 subscription.code)

def identityFrame (kind : UInt16) (what : UInt32) (record : IdentityRecord) : Bytes :=
  connectorFrame kind 0 (EventHeader.toBytes ⟨what, 0, 0⟩ ++ record.toBytes)

/-- The frame that the kernel sends when a process changes its user. -/
def userFrame (process : Int32) (real effective : UInt32) : Bytes :=
  identityFrame doneKind userChanged ⟨process, process, real, effective⟩

/-- The frame that the kernel sends when a process changes its group. -/
def groupFrame (process : Int32) (real effective : UInt32) : Bytes :=
  identityFrame doneKind groupChanged ⟨process, process, real, effective⟩

/-- A frame that is only a header. -/
def controlFrame (kind : UInt16) : Bytes :=
  FrameHeader.toBytes ⟨UInt32.ofNat FrameHeader.size, kind, 0, 0, 0⟩

end Regroup.Netlink
