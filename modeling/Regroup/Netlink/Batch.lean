import Regroup.Netlink.Frame
import Regroup.Credential.Event
import Regroup.Log.Record

/-!
# Batches of frames

A datagram from the kernel is a batch: frames one after the other, each aligned. A decoder walks
the frames and yields the credential events among them. `step` judges one frame, `next` goes on to
the next event, and `drain` collects all events of a batch. The walk ends at the end of the batch,
at a frame that says so, and at the first frame or payload that is too short for what it declares.

A frame takes at least sixteen bytes of the batch, so the bytes that are left bound the walk. They
bound the counters of a batch as well, which stay below `2 ^ 64` because a batch fits into memory.
-/

namespace Regroup.Netlink

open Credential (Event Kind)
open Log (Record)

/-- A marker of the kernel that cuts a batch short. -/
inductive Interruption where
  | error
  | overrun
deriving DecidableEq

def Interruption.name : Interruption → String
  | error => "error"
  | overrun => "overrun"

/-- `frames` counts every complete frame, and `truncated` the frames and payloads too short for
what they declare. -/
structure DecodeStats where
  frames : Nat := 0
  noops : Nat := 0
  credentialEvents : Nat := 0
  ignored : Nat := 0
  truncated : Nat := 0
deriving DecidableEq

def DecodeStats.merge (s t : DecodeStats) : DecodeStats where
  frames := s.frames + t.frames
  noops := s.noops + t.noops
  credentialEvents := s.credentialEvents + t.credentialEvents
  ignored := s.ignored + t.ignored
  truncated := s.truncated + t.truncated

/-! ## Payloads -/

/-- The kind of change that an event code stands for. -/
def kindOf? (what : UInt32) : Option Kind :=
  if what = userChanged then some .user
  else if what = groupChanged then some .group
  else none

/-- The event in the data of a connector message, `none` for an event of another kind. -/
def eventOf? (data : Bytes) : Except WireError (Option Event) := do
  let header ← EventHeader.parse data
  match kindOf? header.what with
  | none => return none
  | some kind =>
    let record ← IdentityRecord.parse (data.drop EventHeader.size)
    return some ⟨record.process, record.threadGroup, kind, record.real, record.effective⟩

/-- The event in the payload of a frame, `none` for a message of another connector or an event of
another kind. -/
def payloadEvent? (payload : Bytes) : Except WireError (Option Event) := do
  let header ← ConnectorHeader.parse payload
  if header.isProcess then
    let data := payload.drop ConnectorHeader.size
    let length := header.length.toNat
    require .connectorData length data
    eventOf? (data.take length)
  else return none

/-! ## The walk -/

structure Decoder where
  rest : Bytes
  offset : Nat
  finished : Bool
  interruption : Option Interruption
  stats : DecodeStats
deriving DecidableEq

namespace Decoder

def ofBatch (batch : Bytes) : Decoder :=
  ⟨batch, 0, false, none, {}⟩

def stop (d : Decoder) : Decoder :=
  { d with finished := true }

def interrupt (d : Decoder) (interruption : Interruption) : Decoder :=
  { d with finished := true, interruption := some interruption }

/-- Gives up the rest of the batch. -/
def truncate (d : Decoder) : Decoder :=
  { d with finished := true, stats := { d.stats with truncated := d.stats.truncated + 1 } }

def countNoop (d : Decoder) : Decoder :=
  { d with stats := { d.stats with noops := d.stats.noops + 1 } }

def countIgnored (d : Decoder) : Decoder :=
  { d with stats := { d.stats with ignored := d.stats.ignored + 1 } }

def countEvent (d : Decoder) : Decoder :=
  { d with stats := { d.stats with credentialEvents := d.stats.credentialEvents + 1 } }

/-- Counts a frame of the given length and goes on to where the next one starts. The last frame
of a batch may lack its padding. -/
def advance (d : Decoder) (length : Nat) : Decoder :=
  let skipped := align length
  { d with
    rest := d.rest.drop skipped
    offset := d.offset + if d.rest.shorterThan skipped then d.rest.length else skipped
    stats := { d.stats with frames := d.stats.frames + 1 } }

/-- What judging one frame came to. -/
inductive Verdict where
  | yielded (event : Event)
  | skipped
  | ended (fault : Option WireError)
deriving DecidableEq

/-- Judges the payload of a frame that is already counted. -/
def judgePayload (d : Decoder) (payload : Bytes) : Verdict × Decoder :=
  match payloadEvent? payload with
  | .ok (some event) => (.yielded event, d.countEvent)
  | .ok none => (.skipped, d.countIgnored)
  | .error fault => (.ended (some fault), d.truncate)

/-- Judges the frame at the start of what is left. -/
def step (d : Decoder) : Verdict × Decoder :=
  if d.finished then (.ended none, d)
  else if d.rest.isEmpty then (.ended none, d.stop)
  else
    match FrameHeader.parse d.rest with
    | .error fault => (.ended (some fault), d.truncate)
    | .ok header =>
      let length := header.length.toNat
      if length < FrameHeader.size || d.rest.shorterThan length then
        (.ended (some (.badLength .frameHeader length)), d.truncate)
      else
        let payload := d.rest.slice FrameHeader.size (length - FrameHeader.size)
        let advanced := d.advance length
        if header.kind = noopKind then (.skipped, advanced.countNoop)
        else if header.kind = errorKind then (.ended none, advanced.interrupt .error)
        else if header.kind = overrunKind then (.ended none, advanced.interrupt .overrun)
        else if header.kind = doneKind then advanced.stop.judgePayload payload
        else advanced.judgePayload payload

theorem align_ge (length : Nat) : length ≤ align length := by
  unfold align
  omega

theorem judgePayload_rest (d : Decoder) (payload : Bytes) :
    (d.judgePayload payload).2.rest = d.rest := by
  unfold judgePayload
  split <;> rfl

theorem length_rest_advance_lt (d : Decoder) (length : Nat) (hlength : 0 < length)
    (hrest : d.rest.isEmpty = false) : (d.advance length).rest.length < d.rest.length := by
  have hpos : 0 < d.rest.length := by
    cases h : d.rest with
    | nil => simp [h] at hrest
    | cons => simp
  have := align_ge length
  simp only [advance, List.length_drop]
  omega

/-- A frame that is yielded or skipped uses up bytes of the batch. -/
theorem step_rest_lt (d : Decoder) (h : ∀ fault, d.step.1 ≠ .ended fault) :
    d.step.2.rest.length < d.rest.length := by
  unfold step at h ⊢
  split at h
  · exact absurd rfl (h _)
  rename_i hfinished
  rw [if_neg hfinished]
  split at h
  · exact absurd rfl (h _)
  rename_i hempty
  rw [if_neg hempty]
  split at h
  · exact absurd rfl (h _)
  rename_i header _
  dsimp only at h ⊢
  split at h
  · exact absurd rfl (h _)
  rename_i hlength
  rw [if_neg hlength]
  simp only [Bool.or_eq_true, decide_eq_true_eq, not_or, Nat.not_lt] at hlength
  have hadvance := d.length_rest_advance_lt header.length.toNat
    (Nat.lt_of_lt_of_le (by decide) hlength.1) (by simpa using hempty)
  split
  · exact hadvance
  split
  · exact hadvance
  split
  · exact hadvance
  split
  · rw [judgePayload_rest]
    exact hadvance
  · rw [judgePayload_rest]
    exact hadvance

/-- The record of a frame that made the decoder give up. -/
def dropRecord (d : Decoder) (fault : WireError) : Record :=
  ⟨.debug, .decoder, s!"Dropping rest of batch at offset {d.offset}: {fault.message}"⟩

def faultRecords (d : Decoder) : Option WireError → List Record
  | none => []
  | some fault => [d.dropRecord fault]

/-- Goes on to the next event. Once there is none, the answer stays the same. -/
def next (d : Decoder) : Option Event × Decoder × List Record :=
  match _hstep : d.step with
  | (.yielded event, d') => (some event, d', [])
  | (.skipped, d') => d'.next
  | (.ended fault, d') => (none, d', d'.faultRecords fault)
termination_by d.rest.length
decreasing_by
  have hlt := d.step_rest_lt (by simp [_hstep])
  simpa [_hstep] using hlt

/-- Yielding an event uses up bytes of the batch. -/
theorem next_rest_lt (d : Decoder) (h : d.next.1.isSome) :
    d.next.2.1.rest.length < d.rest.length := by
  fun_induction next d with
  | case1 d event d' hstep =>
    have hlt := d.step_rest_lt (by simp [hstep])
    simpa [hstep] using hlt
  | case2 d d' hstep ih =>
    have hlt := d.step_rest_lt (by simp [hstep])
    rw [hstep] at hlt
    exact Nat.lt_trans (ih h) hlt
  | case3 => simp at h

/-- All events from here on, the decoder after the last of them, and what it logged. -/
def drain (d : Decoder) : List Event × Decoder × List Record :=
  match _hnext : d.next with
  | (some event, d', records) =>
    let (events, last, records') := d'.drain
    (event :: events, last, records ++ records')
  | (none, d', records) => ([], d', records)
termination_by d.rest.length
decreasing_by
  have hlt := d.next_rest_lt (by simp [_hnext])
  simpa [_hnext] using hlt

end Decoder

/-- The events of a batch with the decoder that has walked it. -/
def decode (batch : Bytes) : List Event × Decoder :=
  let (events, d, _) := (Decoder.ofBatch batch).drain
  (events, d)

end Regroup.Netlink
