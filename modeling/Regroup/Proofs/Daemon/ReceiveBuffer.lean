import Regroup.Proofs.Daemon.StartUp
import Regroup.Proofs.Netlink.Codec
import Regroup.Proofs.Netlink.Offsets
import Regroup.Proofs.Netlink.RoundTrip

/-!
# What a receive buffer holds

The kernel reports a change of identity in a frame of sixty-eight bytes: four records, and no
padding. A datagram is cut to the receive buffer, and a frame that is cut anywhere behind its header
is one truncation and no event. The least buffer that the settings accept is four bytes short of the
frame, so the buffers from sixty-eight bytes on are those that let changes of identity through.
-/

namespace Regroup

open Credential (Event Kind)

namespace Netlink

/-! ## Whole frames and cut ones -/

theorem length_identityData (header : EventHeader) (record : IdentityRecord) :
    (header.toBytes ++ record.toBytes).length = 32 := by
  rw [List.length_append, EventHeader.length_toBytes, IdentityRecord.length_toBytes]
  rfl

/-- The four records add up to sixty-eight bytes. -/
theorem length_identityFrame (kind : UInt16) (what : UInt32) (record : IdentityRecord) :
    (identityFrame kind what record).length = 68 := by
  rw [identityFrame, length_connectorFrame, length_identityData]
  rfl

/-- The length that a connector frame declares can be read as soon as its first word is there. -/
theorem word32At_take_connectorFrame (kind : UInt16) (port : UInt32) (data : Bytes) (size : Nat)
    (hdata : data.length ≤ 65535) (hsize : 4 ≤ size) :
    (Bytes.word32At ((connectorFrame kind port data).take size) 0).toNat = 36 + data.length := by
  rw [Bytes.word32At_take _ size 0 (by omega)]
  simp only [connectorFrame, FrameHeader.toBytes, List.append_assoc,
    Bytes.word32At_ofWord32_append, FrameHeader.size, ConnectorHeader.size]
  rw [UInt32.toNat_ofNat']
  omega

theorem isWalkOf_take_connectorFrame (kind : UInt16) (port : UInt32) (data : Bytes) (size : Nat)
    (hdata : data.length ≤ 65535) (hheader : 16 ≤ size) (hcut : size < 36 + data.length) :
    IsWalkOf ((connectorFrame kind port data).take size) (.ending 0 .overlong) := by
  have hwhole := length_connectorFrame kind port data
  have halign := Decoder.align_ge (36 + data.length)
  have hlength : ((connectorFrame kind port data).take size).length = size := by
    rw [List.length_take]
    omega
  have hdeclared := word32At_take_connectorFrame kind port data size hdata (by omega)
  have hlanding : landingAt ((connectorFrame kind port data).take size) 0 = .ends .overlong := by
    unfold landingAt
    simp only [hlength, hdeclared]
    rw [if_neg (by omega), if_neg (by omega), if_neg (by omega), if_pos (by omega)]
  rw [← walkFrom_of_ends hlanding]
  exact isWalkOf_walkFrom _

/-- A final frame with a change of identity gives its event, and nothing is found truncated. -/
theorem decode_identityFrame (what : UInt32) (kind : Kind) (hkind : kindOf? what = some kind)
    (record : IdentityRecord) :
    let decoded := decode (identityFrame doneKind what record)
    decoded.1 =
        [⟨record.process, record.threadGroup, kind, record.real, record.effective⟩] ∧
      decoded.2.stats = { frames := 1, credentialEvents := 1 } := by
  let data : Bytes := EventHeader.toBytes ⟨what, 0, 0⟩ ++ record.toBytes
  let ending : Ending := .done 0 data []
  have hevent : dataEvent? data =
      some ⟨record.process, record.threadGroup, kind, record.real, record.effective⟩ := by
    rw [dataEvent?_identity, hkind]
    rfl
  have hbytes : identityFrame doneKind what record = ending.toBytes :=
    (List.append_nil _).symm
  obtain ⟨hevents, hstats, -⟩ := drain_of_ending (Decoder.ofBatch ending.toBytes) ending
    (isEventData_identity _ record) rfl rfl rfl
  rw [hbytes]
  refine ⟨hevents.trans ?_, hstats.trans ?_⟩
  · simp [ending, Ending.finalFrame?, Frame.event?, hevent]
  · simp [ending, tally, Ending.finalFrame?, Ending.frameCount, Frame.event?,
      Frame.isOther, hevent, DecodeStats.merge, Decoder.ofBatch]

end Netlink

/-! ## The buffer of the settings -/

namespace Config.Settings

theorem le_receiveBuffer (channel : Section) (size : Nat)
    (h : receiveBuffer channel = .ok size) : minReceiveBuffer ≤ size := by
  obtain ⟨found, -, hsize⟩ := (bind_eq_ok_iff _ _ _).1 h
  split at hsize
  · cases hsize
  · obtain rfl := Except.ok.inj hsize
    omega

theorem le_receiveBuffer_of_resolve (config : Configuration) (options : CommandLine.Options)
    (settings : Settings) (h : resolve config options = .ok settings) :
    minReceiveBuffer ≤ settings.channel.receiveBuffer := by
  obtain ⟨size, hsize, h⟩ := (bind_eq_ok_iff _ _ _).1 h
  obtain ⟨daemonize, -, h⟩ := (bind_eq_ok_iff _ _ _).1 h
  obtain ⟨logging, -, h⟩ := (bind_eq_ok_iff _ _ _).1 h
  obtain ⟨logFile, -, h⟩ := (bind_eq_ok_iff _ _ _).1 h
  obtain ⟨processRoot, -, h⟩ := (bind_eq_ok_iff _ _ _).1 h
  obtain ⟨rulesFile, -, h⟩ := (bind_eq_ok_iff _ _ _).1 h
  obtain ⟨cgroupRoot, -, h⟩ := (bind_eq_ok_iff _ _ _).1 h
  obtain ⟨useCache, -, h⟩ := (bind_eq_ok_iff _ _ _).1 h
  obtain ⟨socketBuffer, -, h⟩ := (bind_eq_ok_iff _ _ _).1 h
  obtain rfl := Except.ok.inj h
  exact le_receiveBuffer _ _ hsize

end Config.Settings

namespace Daemon

open Config (Configuration Settings)
open Netlink

/-- A connector receives into the buffer that it was opened with. -/
theorem Connector.bufferSize_of_openFor (options : Config.ChannelOptions) (m m' : Machine)
    (connector : Connector) (h : openFor options m = (.ok connector, m')) :
    connector.bufferSize = max options.receiveBuffer Settings.minReceiveBuffer := by
  rw [(eq_of_openFor options m m' connector h).1]

/-- What comes of a change of identity that is reported in one datagram: where the buffer of the
settings has sixty-eight bytes or more its event, and below that, down to the sixty-four bytes that
the settings ask for, nothing but a truncation. -/
theorem identity_event_of_resolved_buffer (config : Configuration) (options : CommandLine.Options)
    (settings : Settings) (h : Settings.resolve config options = .ok settings) (what : UInt32)
    (kind : Kind) (hkind : kindOf? what = some kind) (record : IdentityRecord) :
    let size := settings.channel.receiveBuffer
    let frame := identityFrame doneKind what record
    let decoded := decode (frame.take size)
    (∀ m m' connector, Connector.openFor settings.channel m = (.ok connector, m') →
        ∀ sender n, connector.receive (.datagram frame sender) n =
          (.ok (some (frame.take size, sender)), connector, n)) ∧
      (68 ≤ size →
        decoded.1 =
            [⟨record.process, record.threadGroup, kind, record.real, record.effective⟩] ∧
          decoded.2.stats = { frames := 1, credentialEvents := 1 }) ∧
      (size < 68 → 64 ≤ size ∧ decoded.1 = [] ∧ decoded.2.stats = { truncated := 1 }) := by
  intro size frame decoded
  have hmin : 64 ≤ size := Settings.le_receiveBuffer_of_resolve config options settings h
  have hlength : frame.length = 68 := length_identityFrame doneKind what record
  refine ⟨fun m m' connector hopened sender n ↦ ?_, fun hwhole ↦ ?_, fun hcut ↦ ?_⟩
  · have hopen := (Connector.openFor_eq_ok settings.channel m m' connector hopened).1
    have hbuffer : connector.bufferSize = size :=
      (Connector.bufferSize_of_openFor settings.channel m m' connector hopened).trans
        (Nat.max_eq_left hmin)
    have hlong : 16 ≤ (frame.take connector.bufferSize).length := by
      rw [List.length_take]
      omega
    rw [connector.receive_of_long n hopen frame sender hlong, hbuffer]
  · have htake : frame.take size = frame := List.take_of_length_le (by omega)
    simp only [decoded, htake]
    exact decode_identityFrame what kind hkind record
  · have hdata := length_identityData ⟨what, 0, 0⟩ record
    have hwalk := isWalkOf_take_connectorFrame doneKind 0 _ size (by rw [hdata]; decide) (by omega)
      (by rwa [hdata])
    exact ⟨hmin, hwalk.events, hwalk.stats⟩

/-- The configuration that sets nothing but the receive buffer. -/
def bufferConfiguration (size : String) : Configuration :=
  [⟨"channel", [("recv_buffer", size)]⟩]

/-- Its settings, defaults but for the buffer. -/
def bufferSettings (size : Nat) : Settings where
  daemonize := true
  logging := true
  logFile := Settings.defaultLogFile
  processRoot := Settings.defaultProcessRoot
  rulesFile := Settings.defaultRulesFile
  cgroupRoot := none
  useCache := true
  channel := ⟨size, none⟩

/-- Sixty-seven bytes are accepted and lose the event, sixty-eight do not. -/
theorem identity_event_of_sixty_seven_bytes :
    let frame := identityFrame doneKind userChanged ⟨100, 100, 0, 1000⟩
    (∃ settings, Settings.resolve (bufferConfiguration "67") {} = .ok settings ∧
        (decode (frame.take settings.channel.receiveBuffer)).2.stats = { truncated := 1 }) ∧
      ∃ settings, Settings.resolve (bufferConfiguration "68") {} = .ok settings ∧
        (decode (frame.take settings.channel.receiveBuffer)).1 = [⟨100, 100, .user, 0, 1000⟩] := by
  intro frame
  have hshort : Settings.resolve (bufferConfiguration "67") {} = .ok (bufferSettings 67) := by
    decide +kernel
  have hlong : Settings.resolve (bufferConfiguration "68") {} = .ok (bufferSettings 68) := by
    decide +kernel
  have hcut := (identity_event_of_resolved_buffer _ _ _ hshort userChanged .user rfl
    ⟨100, 100, 0, 1000⟩).2.2 (by decide)
  have hwhole := (identity_event_of_resolved_buffer _ _ _ hlong userChanged .user rfl
    ⟨100, 100, 0, 1000⟩).2.1 (by decide)
  exact ⟨⟨_, hshort, hcut.2.2⟩, _, hlong, hwhole.1⟩

/-- The least buffer that is accepted cuts the change of user off. -/
theorem least_buffer_loses_identity_event :
    ¬∀ (config : Configuration) (options : CommandLine.Options) (settings : Settings),
      Settings.resolve config options = .ok settings →
      ∀ (what : UInt32) (kind : Kind), kindOf? what = some kind → ∀ record : IdentityRecord,
        let decoded := decode ((identityFrame doneKind what record).take
          settings.channel.receiveBuffer)
        decoded.1 =
            [⟨record.process, record.threadGroup, kind, record.real, record.effective⟩] ∧
          decoded.2.stats.truncated = 0 := by
  intro hall
  have hresolved : Settings.resolve (bufferConfiguration "64") {} = .ok (bufferSettings 64) := by
    decide +kernel
  have hcarried := hall _ _ _ hresolved userChanged .user rfl ⟨100, 100, 0, 1000⟩
  have hcut := isWalkOf_take_connectorFrame doneKind 0
    (EventHeader.toBytes ⟨userChanged, 0, 0⟩ ++ IdentityRecord.toBytes ⟨100, 100, 0, 1000⟩) 64
    (by decide) (by decide) (by decide)
  exact absurd (hcut.events.symm.trans hcarried.1) (by simp [Walk.events, Walk.ending])

end Daemon

end Regroup
