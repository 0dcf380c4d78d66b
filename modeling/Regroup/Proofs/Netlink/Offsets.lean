import Mathlib.Control.Monad.Basic
import Regroup.Proofs.Netlink.RoundTrip
import Regroup.Proofs.Netlink.Walk

/-!
# The decoder walks by offsets

The decoder carries along what is left of a batch and reads every record relative to that. All the
same it does what the walk by offsets says: it yields the events of the walk, counts what the walk
goes past, and reports the marker of the kernel that the walk ends at.
-/

namespace Regroup.Netlink

open Credential (Event)

theorem toOption_require_bind {α : Type} (record : RecordKind) (size : Nat) (bs : Bytes)
    (f : Unit → Except WireError α) :
    (require record size bs >>= f).toOption =
      if bs.length < size then none else (f ()).toOption := by
  by_cases h : bs.length < size
  · rw [require, if_pos ((Bytes.shorterThan_iff bs size).2 h), if_pos h]
    rfl
  · rw [(require_eq_ok_iff record size bs).2 (Nat.not_lt.1 h), if_neg h]
    rfl

theorem toOption_eventOf? (data : Bytes) :
    (eventOf? data).toOption =
      if data.length < 16 then none
      else
        match kindOf? (data.word32At 0) with
        | none => some none
        | some kind =>
          if data.length < 32 then none
          else some (some ⟨(data.word32At 16).toInt32, (data.word32At 20).toInt32, kind,
            data.word32At 24, data.word32At 28⟩) := by
  simp only [eventOf?, EventHeader.parse, bind_assoc, pure_bind, toOption_require_bind,
    EventHeader.size, EventHeader.ofBytes]
  split
  · rfl
  cases kindOf? (data.word32At 0) with
  | none => rfl
  | some kind =>
    simp only [IdentityRecord.parse, bind_assoc, pure_bind, toOption_require_bind,
      IdentityRecord.size, List.length_drop, IdentityRecord.ofBytes, Bytes.word32At_drop]
    by_cases hrecord : data.length < 32
    · rw [if_pos hrecord, if_pos (by omega)]
    · rw [if_neg hrecord, if_neg (by omega)]
      rfl

theorem toOption_payloadEvent? (payload : Bytes) :
    (payloadEvent? payload).toOption =
      if payload.length < 20 then none
      else if payload.word32At 0 ≠ 1 ∨ payload.word32At 4 ≠ 1 then some none
      else if payload.length - 20 < (payload.word16At 16).toNat then none
      else (eventOf? (payload.slice 20 (payload.word16At 16).toNat)).toOption := by
  simp only [payloadEvent?, ConnectorHeader.parse, bind_assoc, pure_bind, toOption_require_bind,
    ConnectorHeader.size]
  split
  · rfl
  by_cases hprocess : payload.word32At 0 = 1 ∧ payload.word32At 4 = 1
  · have hknown : (ConnectorHeader.ofBytes payload).isProcess = true := by
      simp [ConnectorHeader.isProcess, ConnectorHeader.ofBytes, hprocess]
    rw [if_pos hknown, if_neg (by simp [hprocess]), toOption_require_bind, List.length_drop]
    rfl
  · have hunknown : ¬ (ConnectorHeader.ofBytes payload).isProcess = true := by
      simpa [ConnectorHeader.isProcess, ConnectorHeader.ofBytes] using hprocess
    rw [if_neg hunknown, if_pos (by rwa [ne_eq, ne_eq, ← not_and_or])]
    rfl

/-- The payload of a complete frame is read from the places that the frame header puts it at. -/
theorem toOption_payloadEvent?_slice (bytes : Bytes) (start : Nat)
    (hsize : 16 ≤ (bytes.word32At start).toNat)
    (hcomplete : start + (bytes.word32At start).toNat ≤ bytes.length) :
    (payloadEvent? (bytes.slice (start + 16) ((bytes.word32At start).toNat - 16))).toOption =
      (payloadAt? bytes start).map Content.event? := by
  unfold payloadAt?
  dsimp only
  generalize (bytes.word32At start).toNat = length at hsize hcomplete
  rw [toOption_payloadEvent?, Bytes.length_slice _ _ _ (by omega)]
  by_cases hheader : length - 16 < 20
  · rw [if_pos hheader, if_pos hheader]
    rfl
  rw [if_neg hheader, if_neg hheader, Bytes.word32At_slice _ _ _ 0 (by omega),
    Bytes.word32At_slice _ _ _ 4 (by omega), Bytes.word16At_slice _ _ _ 16 (by omega)]
  simp only [Nat.add_zero, Nat.add_assoc]
  by_cases hother : bytes.word32At (start + 16) ≠ 1 ∨ bytes.word32At (start + (16 + 4)) ≠ 1
  · rw [if_pos hother, if_pos hother]
    rfl
  rw [if_neg hother, if_neg hother]
  generalize (bytes.word16At (start + (16 + 16))).toNat = dataLength
  by_cases hdata : length - 16 - 20 < dataLength
  · rw [if_pos hdata, if_pos (.inl (by omega))]
    rfl
  rw [if_neg hdata, Bytes.slice_slice _ _ _ _ _ (by omega), toOption_eventOf?,
    Bytes.length_slice _ _ _ (by omega)]
  by_cases hevent : dataLength < 16
  · rw [if_pos hevent, if_pos (.inr hevent)]
    rfl
  rw [if_neg hevent, if_neg (by omega), Bytes.word32At_slice _ _ _ 0 (by omega)]
  simp only [Nat.add_zero, Nat.add_assoc]
  cases kindOf? (bytes.word32At (start + (16 + 20))) with
  | none => rfl
  | some kind =>
    dsimp only
    by_cases hrecord : dataLength < 32
    · rw [if_pos hrecord, if_pos hrecord]
      rfl
    rw [if_neg hrecord, if_neg hrecord, Bytes.word32At_slice _ _ _ 16 (by omega),
      Bytes.word32At_slice _ _ _ 20 (by omega), Bytes.word32At_slice _ _ _ 24 (by omega),
      Bytes.word32At_slice _ _ _ 28 (by omega)]
    simp only [Nat.add_assoc]
    rfl

namespace Decoder

theorem step_of_finished (d : Decoder) (h : d.finished = true) : d.step = (.ended none, d) := by
  simp only [step, h, if_true]

theorem step_of_empty (d : Decoder) (hfinished : d.finished = false) (hrest : d.rest = []) :
    d.step = (.ended none, d.stop) := by
  simp only [step, hfinished, hrest, List.isEmpty_nil, if_true, Bool.false_eq_true, if_false]

/-- Where bytes are left that are no complete frame, the rest of the batch is given up. -/
theorem step_of_broken (d : Decoder) (hfinished : d.finished = false) (hrest : d.rest ≠ [])
    (hframe : ¬ d.IsAtFrame) : ∃ fault, d.step = (.ended (some fault), d.truncate) := by
  have hempty : d.rest.isEmpty = false := by simpa using hrest
  unfold step
  rw [if_neg (by simp [hfinished]), if_neg (by simp [hempty])]
  split
  · exact ⟨_, rfl⟩
  rename_i header hheader
  obtain ⟨-, -, hparsed⟩ := (bind_eq_ok_iff _ _ _).1 hheader
  obtain rfl := Except.ok.inj hparsed
  dsimp only
  split
  · exact ⟨_, rfl⟩
  rename_i hlength
  simp only [Bool.or_eq_true, decide_eq_true_eq, not_or, Nat.not_lt, Bytes.shorterThan_iff]
    at hlength
  exact absurd ⟨hfinished, hlength.1, hlength.2⟩ hframe

/-- What judging a frame says of it. -/
def verdictOf : Content → Verdict
  | .event found => .yielded found
  | .noop | .other => .skipped

/-- Counts what a frame holds. -/
def count (d : Decoder) : Content → Decoder
  | .noop => d.countNoop
  | .other => d.countIgnored
  | .event _ => d.countEvent

theorem judgePayload_of_short (d : Decoder) (payload : Bytes)
    (h : (payloadEvent? payload).toOption = none) :
    ∃ fault, d.judgePayload payload = (.ended (some fault), d.truncate) := by
  unfold judgePayload
  split
  · rename_i hpayload
    rw [hpayload] at h
    cases h
  · rename_i hpayload
    rw [hpayload] at h
    cases h
  · exact ⟨_, rfl⟩

theorem judgePayload_of_content (d : Decoder) (payload : Bytes) (content : Content)
    (hcontent : content ≠ .noop)
    (h : (payloadEvent? payload).toOption = some content.event?) :
    d.judgePayload payload = (verdictOf content, d.count content) := by
  unfold judgePayload
  split
  · rename_i event hpayload
    rw [hpayload] at h
    cases content with
    | event found =>
      obtain rfl : event = found := Option.some.inj (Option.some.inj h)
      rfl
    | noop | other => cases h
  · rename_i hpayload
    rw [hpayload] at h
    cases content with
    | noop => exact absurd rfl hcontent
    | other => rfl
    | event found => cases h
  · rename_i hpayload
    rw [hpayload] at h
    cases h

/-! ## The decoder at an offset -/

/-- The decoder has come to an offset and goes on. -/
structure IsAt (d : Decoder) (bytes : Bytes) (start : Nat) : Prop where
  rest : d.rest = bytes.drop start
  unfinished : d.finished = false
  uninterrupted : d.interruption = none

variable {d : Decoder} {bytes : Bytes} {start : Nat}

theorem IsAt.count (h : d.IsAt bytes start) (content : Content) :
    (d.count content).IsAt bytes start := by
  cases content <;> exact ⟨h.rest, h.unfinished, h.uninterrupted⟩

theorem IsAt.advance (h : d.IsAt bytes start) (length : Nat) :
    (d.advance length).IsAt bytes (start + align length) := by
  refine ⟨?_, h.unfinished, h.uninterrupted⟩
  simp only [Decoder.advance, h.rest, List.drop_drop]

theorem IsAt.declared_eq (h : d.IsAt bytes start) : d.declared = (bytes.word32At start).toNat := by
  rw [declared, h.rest, FrameHeader.ofBytes, Bytes.word32At_drop]
  rfl

theorem IsAt.isAtFrame_iff (h : d.IsAt bytes start) :
    d.IsAtFrame ↔ 16 ≤ (bytes.word32At start).toNat ∧
      (bytes.word32At start).toNat ≤ bytes.length - start := by
  have hlength : d.rest.length = bytes.length - start := by
    rw [h.rest, List.length_drop]
  constructor
  · intro hframe
    have hsize := hframe.size_le
    have hdeclared := hframe.declared_le
    rw [h.declared_eq] at hsize hdeclared
    rw [hlength] at hdeclared
    exact ⟨hsize, hdeclared⟩
  · rintro ⟨hsize, hdeclared⟩
    rw [← h.declared_eq] at hsize hdeclared
    rw [← hlength] at hdeclared
    exact ⟨h.unfinished, hsize, hdeclared⟩

theorem IsAt.step_of_broken (h : d.IsAt bytes start) (hstart : start < bytes.length)
    (hbroken : ¬ (16 ≤ (bytes.word32At start).toNat ∧
      (bytes.word32At start).toNat ≤ bytes.length - start)) :
    ∃ fault, d.step = (.ended (some fault), d.truncate) := by
  refine Decoder.step_of_broken d h.unfinished ?_ (mt h.isAtFrame_iff.1 hbroken)
  rw [h.rest, ne_eq, List.drop_eq_nil_iff]
  omega

theorem IsAt.step_of_frame (h : d.IsAt bytes start) (hsize : 16 ≤ (bytes.word32At start).toNat)
    (hcomplete : (bytes.word32At start).toNat ≤ bytes.length - start) :
    d.step = (d.advance (bytes.word32At start).toNat).judgeFrame (bytes.word16At (start + 4))
      (bytes.slice (start + 16) ((bytes.word32At start).toNat - 16)) := by
  rw [d.step_of_isAtFrame (h.isAtFrame_iff.2 ⟨hsize, hcomplete⟩), h.declared_eq, h.rest,
    Bytes.slice_drop]
  congr 1
  exact Bytes.word16At_drop bytes start 4

/-- Only a final frame stops the walk before its payload is judged. -/
theorem judgeFrame_of_payload (d : Decoder) (kind : UInt16) (payload : Bytes)
    (hnoop : kind ≠ noopKind) (herror : kind ≠ errorKind) (hoverrun : kind ≠ overrunKind) :
    d.judgeFrame kind payload = (if kind = doneKind then d.stop else d).judgePayload payload := by
  rw [judgeFrame, if_neg hnoop, if_neg herror, if_neg hoverrun]
  split <;> rfl

/-! ## Following a walk -/

/-- Draining the decoder from here on comes to what the walk comes to. -/
structure Follows (d : Decoder) (walk : Walk) : Prop where
  events : d.drain.1 = walk.events
  stats : d.drain.2.1.stats = d.stats.merge walk.stats
  interruption : d.drain.2.1.interruption = walk.stop.interruption?

theorem Follows.of_ended {d' : Decoder} {fault : Option WireError} {stop : Stop}
    (hstep : d.step = (.ended fault, d'))
    (hstats : d'.stats = d.stats.merge (Walk.ending start stop).stats)
    (hinterruption : d'.interruption = stop.interruption?) :
    d.Follows (.ending start stop) := by
  have hdrain := d.drain_of_ended d' fault hstep
  refine ⟨?_, ?_, ?_⟩
  · rw [hdrain]
    rfl
  · rw [hdrain]
    exact hstats
  · rw [hdrain]
    exact hinterruption

theorem Follows.after {passed : Decoder} {content : Content} {length : Nat} {walk : Walk}
    (hstep : d.step = (verdictOf content, passed.count content))
    (hpassed : passed.stats = (d.advance length).stats) (h : (passed.count content).Follows walk) :
    d.Follows (walk.after ⟨start, length, content⟩) := by
  have hstats : (passed.count content).stats = d.stats.merge content.stats := by
    cases content <;>
      simp only [Decoder.count, countNoop, countIgnored, countEvent, hpassed] <;> rfl
  have hdrain : d.drain.1 = content.event?.toList ++ (passed.count content).drain.1 ∧
      d.drain.2.1 = (passed.count content).drain.2.1 := by
    cases content with
    | noop | other =>
      rw [d.drain_of_skipped _ hstep]
      exact ⟨rfl, rfl⟩
    | event found =>
      rw [d.drain_of_yielded _ found hstep]
      exact ⟨rfl, rfl⟩
  refine ⟨?_, ?_, ?_⟩
  · rw [hdrain.1, h.events, walk.events_after]
    rfl
  · rw [hdrain.2, h.stats, hstats, merge_assoc, walk.stats_after]
  · rw [hdrain.2, h.interruption, walk.after_stop]

theorem Follows.of_finished (h : d.finished = true) (hinterruption : d.interruption = none) :
    d.Follows (.ending start .final) :=
  .of_ended (d.step_of_finished h) rfl hinterruption

/-- What the decoder does with what the walk meets. -/
def Lands (d : Decoder) (start : Nat) : Landing → Prop
  | .ends stop => d.Follows (.ending start stop)
  | .finishes visit =>
    d.step = (verdictOf visit.content, (d.advance visit.length).stop.count visit.content)
  | .passes visit =>
    d.step = (verdictOf visit.content, (d.advance visit.length).count visit.content)

theorem IsAt.lands (h : d.IsAt bytes start) : d.Lands start (landingAt bytes start) := by
  unfold landingAt
  dsimp only
  split
  · rename_i hend
    have hrest : d.rest = [] := h.rest.trans (List.drop_eq_nil_of_le hend)
    exact .of_ended (d.step_of_empty h.unfinished hrest) rfl h.uninterrupted
  split
  · obtain ⟨fault, hstep⟩ := h.step_of_broken (by omega) (by omega)
    exact .of_ended hstep rfl h.uninterrupted
  split
  · obtain ⟨fault, hstep⟩ := h.step_of_broken (by omega) (by omega)
    exact .of_ended hstep rfl h.uninterrupted
  split
  · obtain ⟨fault, hstep⟩ := h.step_of_broken (by omega) (by omega)
    exact .of_ended hstep rfl h.uninterrupted
  -- from here on the frame is complete, and the decoder is past it before it judges the payload
  have hsize : 16 ≤ (bytes.word32At start).toNat := by omega
  have hcomplete : (bytes.word32At start).toNat ≤ bytes.length - start := by omega
  have hstep := h.step_of_frame hsize hcomplete
  split
  · rename_i hnoop
    rwa [hnoop, judgeFrame_noop] at hstep
  split
  · rename_i herror
    rw [herror, judgeFrame_error] at hstep
    exact .of_ended hstep rfl rfl
  split
  · rename_i hoverrun
    rw [hoverrun, judgeFrame_overrun] at hstep
    exact .of_ended hstep rfl rfl
  rename_i hnoop herror hoverrun
  rw [judgeFrame_of_payload _ _ _ hnoop herror hoverrun] at hstep
  have hplaces := toOption_payloadEvent?_slice bytes start hsize (by omega)
  cases hpayload : payloadAt? bytes start with
  | none =>
    rw [hpayload] at hplaces
    obtain ⟨fault, hjudged⟩ := judgePayload_of_short _ _ hplaces
    rw [hjudged] at hstep
    refine .of_ended hstep ?_ ?_
    · split <;> rfl
    · split <;> exact h.uninterrupted
  | some content =>
    rw [hpayload] at hplaces
    have hcontent : content ≠ .noop := by
      rintro rfl
      exact payloadAt?_ne_noop bytes start hpayload
    rw [judgePayload_of_content _ _ content hcontent hplaces] at hstep
    by_cases hdone : bytes.word16At (start + 4) = doneKind
    · simp only [if_pos hdone] at hstep ⊢
      exact hstep
    · simp only [if_neg hdone] at hstep ⊢
      exact hstep

/-- The walk by offsets is what the decoder does. -/
theorem follows_walkFrom (d : Decoder) (bytes : Bytes) (start : Nat) (h : d.IsAt bytes start) :
    d.Follows (walkFrom bytes start) := by
  fun_induction walkFrom bytes start generalizing d with
  | case1 start stop hlanding =>
    have hlands := h.lands
    rwa [hlanding] at hlands
  | case2 start visit hlanding =>
    have hlands := h.lands
    rw [hlanding] at hlands
    -- the payload of a final frame still counts, but nothing behind it does
    refine .after hlands rfl (.of_finished ?_ ?_)
    · cases visit.content <;> rfl
    · cases visit.content <;> exact h.uninterrupted
  | case3 start visit hlanding ih =>
    have hlands := h.lands
    rw [hlanding] at hlands
    exact .after hlands rfl (ih _ ((h.advance visit.length).count visit.content))

end Decoder

/-- What decoding a batch comes to is what the walk from its first byte on comes to. -/
structure IsWalkOf (bytes : Bytes) (walk : Walk) : Prop where
  events : (decode bytes).1 = walk.events
  stats : (decode bytes).2.stats = walk.stats
  interruption : (decode bytes).2.interruption = walk.stop.interruption?

theorem isWalkOf_walkFrom (bytes : Bytes) : IsWalkOf bytes (walkFrom bytes 0) := by
  have hfollows := (Decoder.ofBatch bytes).follows_walkFrom bytes 0 ⟨rfl, rfl, rfl⟩
  refine ⟨hfollows.events, hfollows.stats.trans ?_, hfollows.interruption⟩
  simp [Decoder.ofBatch, DecodeStats.merge]

/-- Draining a batch yields the events of the walk from its first byte on and reports the marker
that the walk ends at, if it does. All offsets are multiples of four, and the frames of the events
lie inside the batch and do not overlap. -/
theorem decode_eq_walk (bytes : Bytes) :
    let walk := walkFrom bytes 0
    (decode bytes).1 = walk.events ∧
      (decode bytes).2.interruption = walk.stop.interruption? ∧
      (∀ offset ∈ walk.offsets, 4 ∣ offset) ∧
      (∀ visit ∈ walk.visits, visit.start + visit.length ≤ bytes.length ∧
        (visit.event?.isSome → 68 ≤ visit.length)) ∧
      walk.visits.Pairwise fun visit later ↦ visit.start + visit.length ≤ later.start := by
  intro walk
  have hwalk := isWalkOf_walkFrom bytes
  have hordered := isOrdered_walkFrom bytes 0
  refine ⟨hwalk.events, hwalk.interruption, ?_, ?_, hordered.disjoint⟩
  · exact fun offset hoffset ↦ hordered.offsets offset hoffset (Nat.dvd_zero 4)
  · exact fun visit hvisit ↦
      ⟨(hordered.visits visit hvisit).2.end_le, (hordered.visits visit hvisit).2.event_le⟩

end Regroup.Netlink
