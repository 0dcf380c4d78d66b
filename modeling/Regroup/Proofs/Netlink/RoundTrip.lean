import Regroup.Proofs.Netlink.Batch

/-!
# Batches that are built and decoded

A batch that is built frame by frame decodes to the events of its frames. The frames may be no-ops
and connector frames with data of any length, so the padding differs from frame to frame, and the
batch may break off in a marker of the kernel or go on with any bytes behind a final frame.
-/

namespace Regroup.Netlink

open Credential (Event Kind)

inductive Frame where
  | noop
  | connector (kind : UInt16) (port : UInt32) (data : Bytes)
deriving DecidableEq

/-- The event that connector data stands for, read from the words at their offsets. -/
def dataEvent? (data : Bytes) : Option Event :=
  (kindOf? (data.word32At 0)).map fun kind ↦
    ⟨(data.word32At 16).toInt32, (data.word32At 20).toInt32, kind, data.word32At 24,
      data.word32At 28⟩

/-- Data long enough for an event header, and for an identity record if it announces one. -/
structure IsEventData (data : Bytes) : Prop where
  header : 16 ≤ data.length
  record : (kindOf? (data.word32At 0)).isSome → 32 ≤ data.length
  bound : data.length ≤ 65535

namespace Frame

def toBytes : Frame → Bytes
  | noop => controlFrame noopKind
  | connector kind port data => connectorFrame kind port data

def event? : Frame → Option Event
  | noop => none
  | connector _ _ data => dataEvent? data

def isNoop : Frame → Bool
  | noop => true
  | connector _ _ _ => false

/-- Whether the frame carries no change of identity. -/
def isOther : Frame → Bool
  | noop => false
  | connector _ _ data => (dataEvent? data).isNone

/-- A frame that the walk goes past. -/
def IsPassing : Frame → Prop
  | noop => True
  | connector kind _ data =>
    kind ∉ [noopKind, errorKind, doneKind, overrunKind] ∧ IsEventData data

end Frame

def Interruption.kind : Interruption → UInt16
  | error => errorKind
  | overrun => overrunKind

/-- How a batch goes on behind the frames that the walk goes past: not at all, with a final frame,
or with a marker of the kernel. What stands behind the last two is never looked at. -/
inductive Ending where
  | exhausted
  | done (port : UInt32) (data unseen : Bytes)
  | interrupted (interruption : Interruption) (unseen : Bytes)
deriving DecidableEq

namespace Ending

def toBytes : Ending → Bytes
  | exhausted => []
  | done port data unseen => connectorFrame doneKind port data ++ unseen
  | interrupted interruption unseen => controlFrame interruption.kind ++ unseen

/-- The final frame. -/
def finalFrame? : Ending → Option Frame
  | done port data _ => some (.connector doneKind port data)
  | exhausted | interrupted _ _ => none

def interruption? : Ending → Option Interruption
  | interrupted interruption _ => some interruption
  | exhausted | done _ _ _ => none

def frameCount : Ending → Nat
  | exhausted => 0
  | done _ _ _ | interrupted _ _ => 1

def IsComplete : Ending → Prop
  | done _ data _ => IsEventData data
  | exhausted | interrupted _ _ => True

end Ending

/-- The counters of frames and the ending behind them. -/
def tally (frames : List Frame) (ending : Ending) : DecodeStats :=
  let messages := frames ++ ending.finalFrame?.toList
  { frames := frames.length + ending.frameCount
    noops := frames.countP Frame.isNoop
    credentialEvents := (messages.filterMap Frame.event?).length
    ignored := messages.countP Frame.isOther
    truncated := 0 }

theorem merge_assoc (s t u : DecodeStats) : (s.merge t).merge u = s.merge (t.merge u) := by
  simp only [DecodeStats.merge, Nat.add_assoc]

/-- The counters of a frame alone. -/
def Frame.tally (frame : Frame) : DecodeStats :=
  Netlink.tally [frame] .exhausted

theorem tally_cons (frame : Frame) (frames : List Frame) (ending : Ending) :
    tally (frame :: frames) ending = frame.tally.merge (tally frames ending) := by
  have hevents : (frame :: (frames ++ ending.finalFrame?.toList)).filterMap Frame.event? =
      [frame].filterMap Frame.event? ++
        (frames ++ ending.finalFrame?.toList).filterMap Frame.event? := by
    rw [← List.filterMap_append, List.singleton_append]
  have hfinal : Ending.exhausted.finalFrame? = none := rfl
  have hcount : Ending.exhausted.frameCount = 0 := rfl
  simp only [tally, Frame.tally, DecodeStats.merge, hfinal, hcount, Option.toList_none,
    List.append_nil, List.cons_append, hevents, List.length_append, List.countP_cons,
    List.countP_nil, List.length_cons, List.length_nil, DecodeStats.mk.injEq]
  exact ⟨by omega, by omega, trivial, by omega, trivial⟩

/-! ## Connector frames -/

theorem payloadEvent?_ofProcess (data : Bytes) (h : IsEventData data) :
    payloadEvent? ((ConnectorHeader.ofProcess (UInt16.ofNat (min data.length 65535))).toBytes ++
      data) = .ok (dataEvent? data) := by
  have hbound := h.bound
  have hheader : EventHeader.size ≤ data.length := h.header
  have hconnector : ConnectorHeader.size ≤
      ((ConnectorHeader.ofProcess (UInt16.ofNat (min data.length 65535))).toBytes ++
        data).length := by
    simp
  have hlength : (UInt16.ofNat (min data.length 65535)).toNat = data.length := by
    rw [UInt16.toNat_ofNat']
    omega
  have hdata : ((ConnectorHeader.ofProcess (UInt16.ofNat (min data.length 65535))).toBytes ++
      data).drop ConnectorHeader.size = data :=
    List.drop_left' (ConnectorHeader.length_toBytes _)
  unfold payloadEvent?
  rw [ConnectorHeader.parse_eq_ok _ hconnector, ConnectorHeader.ofBytes_toBytes_append]
  have hrequire : require .connectorData data.length data = .ok () :=
    (require_eq_ok_iff _ _ _).2 (Nat.le_refl _)
  have hprocess : (ConnectorHeader.ofProcess (UInt16.ofNat (min data.length 65535))).isProcess =
      true := rfl
  simp only [bind, Except.bind, hprocess, if_true, hdata]
  simp only [ConnectorHeader.ofProcess, hlength, hrequire, List.take_length]
  unfold eventOf? dataEvent?
  simp only [EventHeader.parse_eq_ok data hheader, bind, Except.bind, EventHeader.ofBytes]
  cases hkind : kindOf? (data.word32At 0) with
  | none => rfl
  | some kind =>
    have hrecord := h.record (by rw [hkind]; rfl)
    have hlong : IdentityRecord.size ≤ (data.drop EventHeader.size).length := by
      rw [List.length_drop]
      simp only [IdentityRecord.size, EventHeader.size]
      omega
    simp only [IdentityRecord.parse_eq_ok _ hlong, IdentityRecord.ofBytes, Bytes.word32At_drop]
    rfl

/-- A connector frame is passed with all of its padding, whatever the length of its data. -/
theorem step_of_connectorFrame (d : Decoder) (kind : UInt16) (port : UInt32) (data tail : Bytes)
    (hdata : data.length ≤ 65535) (hfinished : d.finished = false)
    (hrest : d.rest = connectorFrame kind port data ++ tail) :
    d.step = (d.pass (36 + data.length) tail).judgeFrame kind
      ((ConnectorHeader.ofProcess (UInt16.ofNat (min data.length 65535))).toBytes ++ data) := by
  have hlength : (UInt32.ofNat (36 + data.length)).toNat = 36 + data.length := by
    rw [UInt32.toNat_ofNat']
    omega
  have halign := Decoder.align_ge (36 + data.length)
  have hstep := d.step_of_frame ⟨UInt32.ofNat (36 + data.length), kind, 0, 0, port⟩
    ((ConnectorHeader.ofProcess (UInt16.ofNat (min data.length 65535))).toBytes ++ data)
    (List.replicate (align (36 + data.length) - (36 + data.length)) 0) tail hfinished
    (by rw [hrest]; simp only [connectorFrame, FrameHeader.size, ConnectorHeader.size,
      List.append_assoc])
    (by
      simp only [hlength, List.length_append, ConnectorHeader.length_toBytes,
        FrameHeader.size, ConnectorHeader.size]
      omega)
    (by
      simp only [hlength, List.length_replicate]
      omega)
  simpa only [hlength] using hstep

theorem step_of_controlFrame (d : Decoder) (kind : UInt16) (tail : Bytes)
    (hfinished : d.finished = false) (hrest : d.rest = controlFrame kind ++ tail) :
    d.step = (d.pass 16 tail).judgeFrame kind [] := by
  have hstep := d.step_of_frame ⟨UInt32.ofNat FrameHeader.size, kind, 0, 0, 0⟩ [] [] tail
    hfinished (by simpa [controlFrame] using hrest) rfl (by simp [FrameHeader.size, align])
  exact hstep

/-- What judging connector data adds to the counters. -/
def dataTally (data : Bytes) : DecodeStats :=
  match dataEvent? data with
  | some _ => { credentialEvents := 1 }
  | none => { ignored := 1 }

/-- Judging connector data yields its event if it has one, and the walk goes on from there. -/
theorem drain_of_judgePayload (d passed : Decoder) (data : Bytes) (hdata : IsEventData data)
    (hstep : d.step = passed.judgePayload
      ((ConnectorHeader.ofProcess (UInt16.ofNat (min data.length 65535))).toBytes ++ data)) :
    ∃ d' : Decoder, d'.rest = passed.rest ∧ d'.finished = passed.finished ∧
      d'.interruption = passed.interruption ∧ d'.stats = passed.stats.merge (dataTally data) ∧
      d.drain.1 = (dataEvent? data).toList ++ d'.drain.1 ∧ d.drain.2.1 = d'.drain.2.1 := by
  have hpayload := payloadEvent?_ofProcess data hdata
  unfold dataTally
  cases hevent : dataEvent? data with
  | none =>
    rw [hevent] at hpayload
    simp only [Decoder.judgePayload, hpayload] at hstep
    have hdrain := d.drain_of_skipped passed.countIgnored hstep
    exact ⟨passed.countIgnored, rfl, rfl, rfl, rfl, by rw [hdrain]; rfl, by rw [hdrain]⟩
  | some event =>
    rw [hevent] at hpayload
    simp only [Decoder.judgePayload, hpayload] at hstep
    have hdrain := d.drain_of_yielded passed.countEvent event hstep
    exact ⟨passed.countEvent, rfl, rfl, rfl, rfl, by rw [hdrain]; rfl, by rw [hdrain]⟩

/-- A connector frame counts as one frame and as what its data comes to. -/
theorem merge_dataTally (stats : DecodeStats) (kind : UInt16) (port : UInt32) (data : Bytes) :
    DecodeStats.merge { stats with frames := stats.frames + 1 } (dataTally data) =
      stats.merge (Frame.connector kind port data).tally := by
  unfold dataTally
  cases hevent : dataEvent? data with
  | none =>
    simp [Frame.tally, tally, DecodeStats.merge, Frame.event?, Frame.isNoop, Frame.isOther, hevent,
      Ending.finalFrame?, Ending.frameCount]
  | some event =>
    simp [Frame.tally, tally, DecodeStats.merge, Frame.event?, Frame.isNoop, Frame.isOther, hevent,
      Ending.finalFrame?, Ending.frameCount]

/-! ## Whole batches -/

/-- One step takes the walk past a frame, with its event if it has one. -/
theorem drain_of_passing (d : Decoder) (frame : Frame) (tail : Bytes) (h : frame.IsPassing)
    (hfinished : d.finished = false) (hrest : d.rest = frame.toBytes ++ tail) :
    ∃ d' : Decoder, d'.rest = tail ∧ d'.finished = false ∧ d'.interruption = d.interruption ∧
      d'.stats = d.stats.merge frame.tally ∧
      d.drain.1 = frame.event?.toList ++ d'.drain.1 ∧ d.drain.2.1 = d'.drain.2.1 := by
  cases frame with
  | noop =>
    have hstep := step_of_controlFrame d noopKind tail hfinished hrest
    rw [Decoder.judgeFrame_noop] at hstep
    have hdrain := d.drain_of_skipped (d.pass 16 tail).countNoop hstep
    exact ⟨(d.pass 16 tail).countNoop, rfl, hfinished, rfl, rfl, by rw [hdrain]; rfl,
      by rw [hdrain]⟩
  | connector kind port data =>
    obtain ⟨hkind, hdata⟩ := h
    have hstep := step_of_connectorFrame d kind port data tail hdata.bound hfinished hrest
    rw [Decoder.judgeFrame_of_other _ kind _ hkind] at hstep
    obtain ⟨d', hrest', hfinished', hinterruption', hstats', hevents, hlast⟩ :=
      drain_of_judgePayload d _ data hdata hstep
    exact ⟨d', hrest', hfinished'.trans hfinished, hinterruption',
      hstats'.trans (merge_dataTally d.stats kind port data), hevents, hlast⟩

/-- A decoder before its final frame sees that frame and nothing behind it. -/
theorem drain_of_ending (d : Decoder) (ending : Ending) (h : ending.IsComplete)
    (hfinished : d.finished = false) (hinterruption : d.interruption = none)
    (hrest : d.rest = ending.toBytes) :
    d.drain.1 = ending.finalFrame?.toList.filterMap Frame.event? ∧
      d.drain.2.1.stats = d.stats.merge (tally [] ending) ∧
      d.drain.2.1.interruption = ending.interruption? := by
  cases ending with
  | exhausted =>
    have hempty : d.rest.isEmpty = true := by
      rw [hrest]
      rfl
    have hdrain := d.drain_of_ended d.stop none
      (by simp only [Decoder.step, hfinished, hempty, if_true, Bool.false_eq_true, if_false])
    rw [hdrain]
    exact ⟨rfl, rfl, hinterruption⟩
  | interrupted interruption unseen =>
    have hstep := step_of_controlFrame d interruption.kind unseen hfinished hrest
    cases interruption with
    | error =>
      rw [Interruption.kind, Decoder.judgeFrame_error] at hstep
      rw [d.drain_of_ended _ none hstep]
      exact ⟨rfl, rfl, rfl⟩
    | overrun =>
      rw [Interruption.kind, Decoder.judgeFrame_overrun] at hstep
      rw [d.drain_of_ended _ none hstep]
      exact ⟨rfl, rfl, rfl⟩
  | done port data unseen =>
    have hdata : IsEventData data := h
    have hstep := step_of_connectorFrame d doneKind port data unseen hdata.bound hfinished hrest
    rw [Decoder.judgeFrame_done] at hstep
    obtain ⟨d', -, hfinished', hinterruption', hstats', hevents, hlast⟩ :=
      drain_of_judgePayload d (d.pass (36 + data.length) unseen).stop data hdata hstep
    have hfinal := d'.drain_of_finished hfinished'
    rw [hlast, hevents, hfinal]
    refine ⟨?_, ?_, hinterruption'.trans hinterruption⟩
    · cases hevent : dataEvent? data <;> simp [Ending.finalFrame?, Frame.event?, hevent]
    · exact hstats'.trans (merge_dataTally d.stats doneKind port data)

/-- The walk goes past the frames one by one and then meets the ending. -/
theorem drain_of_frames (frames : List Frame) (ending : Ending) (d : Decoder)
    (hframes : ∀ frame ∈ frames, frame.IsPassing) (hending : ending.IsComplete)
    (hfinished : d.finished = false) (hinterruption : d.interruption = none)
    (hrest : d.rest = frames.flatMap Frame.toBytes ++ ending.toBytes) :
    d.drain.1 = (frames ++ ending.finalFrame?.toList).filterMap Frame.event? ∧
      d.drain.2.1.stats = d.stats.merge (tally frames ending) ∧
      d.drain.2.1.interruption = ending.interruption? := by
  induction frames generalizing d with
  | nil => exact drain_of_ending d ending hending hfinished hinterruption hrest
  | cons frame frames ih =>
    obtain ⟨hframe, hframes'⟩ := List.forall_mem_cons.1 hframes
    obtain ⟨d', hrest', hfinished', hinterruption', hstats', hevents, hlast⟩ :=
      drain_of_passing d frame (frames.flatMap Frame.toBytes ++ ending.toBytes) hframe hfinished
        (by rw [hrest, List.flatMap_cons, List.append_assoc])
    obtain ⟨ihevents, ihstats, ihinterruption⟩ :=
      ih d' hframes' hfinished' (hinterruption'.trans hinterruption) hrest'
    refine ⟨?_, ?_, ?_⟩
    · rw [hevents, ihevents, List.cons_append, List.filterMap_cons]
      cases frame.event? <;> rfl
    · rw [hlast, ihstats, hstats', merge_assoc, ← tally_cons]
    · rw [hlast, ihinterruption]

/-- The event that an identity frame is built for. -/
theorem dataEvent?_identity (header : EventHeader) (record : IdentityRecord) :
    dataEvent? (header.toBytes ++ record.toBytes) =
      (kindOf? header.what).map fun kind ↦
        ⟨record.process, record.threadGroup, kind, record.real, record.effective⟩ := by
  simp [dataEvent?, EventHeader.toBytes, IdentityRecord.toBytes, List.append_assoc,
    Bytes.word32At_append_right]

theorem isEventData_identity (header : EventHeader) (record : IdentityRecord) :
    IsEventData (header.toBytes ++ record.toBytes) := by
  have hlength : (header.toBytes ++ record.toBytes).length = 32 := by
    rw [List.length_append, EventHeader.length_toBytes, IdentityRecord.length_toBytes]
    rfl
  exact ⟨by omega, fun _ ↦ by omega, by omega⟩

/-- A batch that is built from frames decodes to their events: each connector frame with a change of
identity gives one, in order, every frame up to the ending is counted, nothing is found truncated,
and only a marker of the kernel interrupts the batch. In particular identity frames decode to the
records they were built from. -/
theorem decode_built_batch :
    (∀ (frames : List Frame) (ending : Ending), (∀ frame ∈ frames, frame.IsPassing) →
      ending.IsComplete →
      let decoded := decode (frames.flatMap Frame.toBytes ++ ending.toBytes)
      decoded.1 = (frames ++ ending.finalFrame?.toList).filterMap Frame.event? ∧
        decoded.2.stats = tally frames ending ∧
        decoded.2.interruption = ending.interruption?) ∧
    ∀ sent : List (UInt16 × UInt32 × IdentityRecord),
      (∀ s ∈ sent, s.1 ∉ [noopKind, errorKind, doneKind, overrunKind]) →
      (decode (sent.flatMap fun s ↦ identityFrame s.1 s.2.1 s.2.2)).1 =
        sent.filterMap fun s ↦ (kindOf? s.2.1).map fun kind ↦
          ⟨s.2.2.process, s.2.2.threadGroup, kind, s.2.2.real, s.2.2.effective⟩ := by
  have hbatch (frames : List Frame) (ending : Ending) (hframes : ∀ frame ∈ frames, frame.IsPassing)
      (hending : ending.IsComplete) :=
    drain_of_frames frames ending (Decoder.ofBatch (frames.flatMap Frame.toBytes ++ ending.toBytes))
      hframes hending rfl rfl rfl
  refine ⟨fun frames ending hframes hending ↦ ?_, fun sent hsent ↦ ?_⟩
  · obtain ⟨hevents, hstats, hinterruption⟩ := hbatch frames ending hframes hending
    refine ⟨hevents, hstats.trans ?_, hinterruption⟩
    simp [Decoder.ofBatch, DecodeStats.merge]
  · let frameOf (s : UInt16 × UInt32 × IdentityRecord) : Frame :=
      .connector s.1 0 (EventHeader.toBytes ⟨s.2.1, 0, 0⟩ ++ s.2.2.toBytes)
    have hpassing : ∀ frame ∈ sent.map frameOf, frame.IsPassing := by
      rintro frame hframe
      obtain ⟨s, hs, rfl⟩ := List.mem_map.1 hframe
      exact ⟨hsent s hs, isEventData_identity _ _⟩
    have hevents := (hbatch (sent.map frameOf) .exhausted hpassing trivial).1
    have hbytes : (sent.map frameOf).flatMap Frame.toBytes ++ Ending.exhausted.toBytes =
        sent.flatMap fun s ↦ identityFrame s.1 s.2.1 s.2.2 := by
      rw [List.flatMap_map]
      exact List.append_nil _
    have hevent : Frame.event? ∘ frameOf = fun s ↦ (kindOf? s.2.1).map fun kind ↦
        ⟨s.2.2.process, s.2.2.threadGroup, kind, s.2.2.real, s.2.2.effective⟩ := by
      funext s
      simp only [Function.comp_apply, frameOf, Frame.event?, dataEvent?_identity]
    have hfinal : Ending.exhausted.finalFrame? = none := rfl
    rw [hbytes, hfinal, Option.toList_none, List.append_nil, List.filterMap_map, hevent] at hevents
    exact hevents

/-- Data of seventeen bytes before an event of thirty-three, a final frame and bytes that are none;
and two identity frames, of which one has a code that is no change of identity. -/
theorem decode_built_batch_odd_lengths :
    let other : Bytes := List.replicate 17 1
    let event : Bytes := EventHeader.toBytes ⟨userChanged, 0, 0⟩ ++
      IdentityRecord.toBytes ⟨100, 101, 0, 1000⟩ ++ [255]
    let final : Bytes := EventHeader.toBytes ⟨groupChanged, 0, 0⟩ ++
      IdentityRecord.toBytes ⟨7, 7, 10, 20⟩
    let frames : List Frame := [.connector 16 0 other, .noop, .connector 0 9 event]
    let ending : Ending := .done 0 final [3, 0, 0, 0, 1]
    let sent : List (UInt16 × UInt32 × IdentityRecord) :=
      [(16, userChanged, ⟨5, 5, 1, 2⟩), (0, 1, ⟨6, 6, 1, 2⟩)]
    (∀ frame ∈ frames, frame.IsPassing) ∧ ending.IsComplete ∧
      (decode (frames.flatMap Frame.toBytes ++ ending.toBytes)).1 =
        [⟨100, 101, .user, 0, 1000⟩, ⟨7, 7, .group, 10, 20⟩] ∧
      (decode (frames.flatMap Frame.toBytes ++ ending.toBytes)).2.stats = ⟨4, 1, 2, 1, 0⟩ ∧
      (decode (frames.flatMap Frame.toBytes ++ ending.toBytes)).2.interruption = none ∧
      (decode (sent.flatMap fun s ↦ identityFrame s.1 s.2.1 s.2.2)).1 = [⟨5, 5, .user, 1, 2⟩] := by
  intro other event final frames ending sent
  have hframes : ∀ frame ∈ frames, frame.IsPassing := by
    simp only [frames, List.forall_mem_cons, Frame.IsPassing, List.not_mem_nil, false_implies,
      implies_true, and_true, true_and]
    exact ⟨⟨by decide, ⟨by decide, by decide, by decide⟩⟩, by decide,
      ⟨by decide, by decide, by decide⟩⟩
  have hending : ending.IsComplete := ⟨by decide, by decide, by decide⟩
  obtain ⟨hevents, hstats, hinterruption⟩ := decode_built_batch.1 frames ending hframes hending
  have hsent := decode_built_batch.2 sent (by decide)
  refine ⟨hframes, hending, hevents.trans ?_, hstats.trans ?_, hinterruption, hsent.trans ?_⟩
  · decide
  · decide
  · decide

end Regroup.Netlink
