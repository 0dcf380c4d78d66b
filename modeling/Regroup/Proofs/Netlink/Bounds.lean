import Regroup.Proofs.Netlink.Calls
import Regroup.Proofs.Netlink.Cursor

/-!
# No batch breaks the decoder off

The guarded decoder keeps the whole batch and an offset into it, a word of 64 bits. Every range that
it cuts out, every sum and every counter is guarded. It is never refused anything: each frame is
cut out only after its declared length has been compared with what is left, and the offset is taken
back to the end of the batch where the padding of the last frame would lie behind it.

So the guarded decoder goes along with the decoder that keeps what is left, step by step and call by
call, and each call comes to an end. The offset never passes the end of the batch, and it grows with
every frame that is counted.
-/

namespace Regroup.Netlink

open Credential (Event)

/-- Rounds up to a multiple of four, refused where that does not fit into a word. -/
def alignWord? (length : UInt64) : Option UInt64 := do
  let padded ← subWord? (← addWord? length 4) 1
  return padded &&& ~~~3

theorem alignWord?_eq_some (length : UInt64) (h : length.toNat < 2 ^ 32) :
    ∃ aligned, alignWord? length = some aligned ∧ aligned.toNat = align length.toNat := by
  have hfour : (4 : UInt64).toNat = 4 := rfl
  have hone : (1 : UInt64).toNat = 1 := rfl
  obtain ⟨sum, hsum, hsumNat⟩ := addWord?_eq_some length 4 (by omega)
  obtain ⟨padded, hpadded, hpaddedNat⟩ := subWord?_eq_some sum 1 (by omega)
  refine ⟨padded &&& ~~~3, ?_, ?_⟩
  · simp only [alignWord?, hsum, hpadded, Option.bind_eq_bind, Option.bind_some, Option.pure_def]
  · calc
      (padded &&& ~~~3).toNat = padded.toNat / 4 * 4 := toNat_and_not_three padded
      _ = (length.toNat + 4 - 1) / 4 * 4 := by rw [hpaddedNat, hsumNat, hfour, hone]
      _ = align length.toNat := rfl

/-- Counts one more, refused where the counter would leave its word. -/
def increment? (n : Nat) : Option Nat :=
  if n + 1 < 2 ^ 64 then some (n + 1) else none

theorem increment?_eq_some (n : Nat) (h : n < 2 ^ 63) : increment? n = some (n + 1) :=
  if_pos (by omega)

structure GuardedDecoder where
  bytes : Bytes
  offset : UInt64
  finished : Bool
  interruption : Option Interruption
  stats : DecodeStats

namespace GuardedDecoder

def ofBatch (bytes : Bytes) : GuardedDecoder :=
  ⟨bytes, 0, false, none, {}⟩

/-- The decoder that keeps only what is left. -/
def view (d : GuardedDecoder) : Decoder :=
  ⟨d.bytes.drop d.offset.toNat, d.offset.toNat, d.finished, d.interruption, d.stats⟩

def stop (d : GuardedDecoder) : GuardedDecoder :=
  { d with finished := true }

def interrupt (d : GuardedDecoder) (interruption : Interruption) : GuardedDecoder :=
  { d with finished := true, interruption := some interruption }

def truncate? (d : GuardedDecoder) : Option GuardedDecoder := do
  let truncated ← increment? d.stats.truncated
  return { d with finished := true, stats := { d.stats with truncated } }

/-- Sorts a frame by what it holds. -/
def count? (d : GuardedDecoder) : Content → Option GuardedDecoder
  | .noop => do
    let noops ← increment? d.stats.noops
    return { d with stats := { d.stats with noops } }
  | .other => do
    let ignored ← increment? d.stats.ignored
    return { d with stats := { d.stats with ignored } }
  | .event _ => do
    let credentialEvents ← increment? d.stats.credentialEvents
    return { d with stats := { d.stats with credentialEvents } }

/-- Goes behind the padding of a frame, but not behind the end of the batch. -/
def advance? (d : GuardedDecoder) (length : UInt64) : Option GuardedDecoder := do
  let behind ← addWord? d.offset (← alignWord? length)
  let frames ← increment? d.stats.frames
  return { d with
    offset := min behind (UInt64.ofNat d.bytes.length)
    stats := { d.stats with frames } }

def judgePayload? (d : GuardedDecoder) (payload : Bytes) :
    Option (Decoder.Verdict × GuardedDecoder) := do
  match ← (Guarded.payloadEvent payload).run with
  | .ok (some event) => return (.yielded event, ← d.count? (.event event))
  | .ok none => return (.skipped, ← d.count? .other)
  | .error fault => return (.ended (some fault), ← d.truncate?)

def judgeFrame? (d : GuardedDecoder) (kind : UInt16) (payload : Bytes) :
    Option (Decoder.Verdict × GuardedDecoder) := do
  if kind = noopKind then return (.skipped, ← d.count? .noop)
  else if kind = errorKind then return (.ended none, d.interrupt .error)
  else if kind = overrunKind then return (.ended none, d.interrupt .overrun)
  else if kind = doneKind then d.stop.judgePayload? payload
  else d.judgePayload? payload

/-- Judges the frame at the offset. -/
def step? (d : GuardedDecoder) : Option (Decoder.Verdict × GuardedDecoder) := do
  if d.finished then return (.ended none, d)
  let rest ← d.bytes.from? d.offset
  if rest.isEmpty then return (.ended none, d.stop)
  match ← (Guarded.frameHeader rest).run with
  | .error fault => return (.ended (some fault), ← d.truncate?)
  | .ok header =>
    let length := header.length.toUInt64
    if length < 16 || rest.shorterThan length.toNat then
      return (.ended (some (.badLength .frameHeader length.toNat)), ← d.truncate?)
    let payload ← rest.range? 16 length
    let advanced ← d.advance? length
    advanced.judgeFrame? header.kind payload

/-! ## What holds between the steps -/

/-- The offset lies in the batch and behind all frames that have been counted, each of which is
sorted, apart from those that are still pending. -/
structure InBounds (d : GuardedDecoder) (pending : Nat) : Prop where
  length_lt : d.bytes.length < 2 ^ 63
  offset_le : d.offset.toNat ≤ d.bytes.length
  frames_le : 16 * d.stats.frames ≤ d.offset.toNat
  sorted_le :
    d.stats.noops + d.stats.credentialEvents + d.stats.ignored + pending ≤ d.stats.frames
  truncated_le : d.stats.truncated ≤ if d.finished then 1 else 0

/-- The decoder has the same offset and has counted as many frames. -/
structure Stays (d d' : GuardedDecoder) : Prop where
  bytes : d'.bytes = d.bytes
  offset : d'.offset = d.offset
  frames : d'.stats.frames = d.stats.frames

/-- The decoder stays, or it has counted a frame and its offset has grown. -/
inductive Moves (d d' : GuardedDecoder) : Prop where
  | stays (h : d.Stays d')
  | passes (bytes : d'.bytes = d.bytes) (frames : d'.stats.frames = d.stats.frames + 1)
      (offset : d.offset < d'.offset)

/-- The step has been granted, and has done what the decoder that keeps what is left does. -/
def GoesAlong (d : GuardedDecoder) (step : Option (Decoder.Verdict × GuardedDecoder))
    (expected : Decoder.Verdict × Decoder) : Prop :=
  ∃ d', step = some (expected.1, d') ∧ d'.view = expected.2 ∧ d'.InBounds 0 ∧ d.Moves d'

section

variable {d d' start : GuardedDecoder} {pending : Nat}

theorem Moves.stay (h : start.Moves d) (hstays : d.Stays d') : start.Moves d' := by
  cases h with
  | stays h =>
    exact .stays ⟨hstays.bytes.trans h.bytes, hstays.offset.trans h.offset,
      hstays.frames.trans h.frames⟩
  | passes bytes frames offset =>
    refine .passes (hstays.bytes.trans bytes) (hstays.frames.trans frames) ?_
    rwa [hstays.offset]

/-- No counter is near the end of its word, for there are not that many frames in memory. -/
theorem InBounds.frames_lt (h : d.InBounds pending) : d.stats.frames < 2 ^ 63 := by
  have hlength := h.length_lt
  have hoffset := h.offset_le
  have hframes := h.frames_le
  omega

/-- The rest of the batch is given up once. -/
theorem InBounds.truncated_eq (h : d.InBounds pending) (hfinished : d.finished = false) :
    d.stats.truncated = 0 := by
  have htruncated := h.truncated_le
  rw [hfinished] at htruncated
  exact Nat.le_zero.1 htruncated

/-- Counting a pending frame as what it holds leaves the other counters alone. -/
theorem InBounds.sort (h : d.InBounds 1) (stats : DecodeStats)
    (hframes : stats.frames = d.stats.frames) (htruncated : stats.truncated = d.stats.truncated)
    (hsorted : stats.noops + stats.credentialEvents + stats.ignored =
      d.stats.noops + d.stats.credentialEvents + d.stats.ignored + 1) :
    InBounds { d with stats } 0 := by
  constructor
  case length_lt => exact h.length_lt
  case offset_le => exact h.offset_le
  case frames_le =>
    rw [hframes]
    exact h.frames_le
  case sorted_le =>
    rw [hframes, Nat.add_zero, hsorted]
    exact h.sorted_le
  case truncated_le =>
    rw [htruncated]
    exact h.truncated_le

/-- A frame that is pending can be sorted. -/
theorem count?_eq_some (h : d.InBounds 1) (content : Content) :
    ∃ d', d.count? content = some d' ∧ d'.view = d.view.count content ∧ d'.InBounds 0 ∧
      d.Stays d' := by
  have hframes := h.frames_lt
  have hsorted := h.sorted_le
  cases content with
  | noop =>
    have hcount := increment?_eq_some d.stats.noops (by omega)
    refine ⟨{ d with stats := { d.stats with noops := d.stats.noops + 1 } }, ?_, rfl, ?_,
      ⟨rfl, rfl, rfl⟩⟩
    · simp only [count?, hcount, Option.bind_eq_bind, Option.bind_some, Option.pure_def]
    · exact h.sort _ rfl rfl (by dsimp only; omega)
  | other =>
    have hcount := increment?_eq_some d.stats.ignored (by omega)
    refine ⟨{ d with stats := { d.stats with ignored := d.stats.ignored + 1 } }, ?_, rfl, ?_,
      ⟨rfl, rfl, rfl⟩⟩
    · simp only [count?, hcount, Option.bind_eq_bind, Option.bind_some, Option.pure_def]
    · exact h.sort _ rfl rfl (by dsimp only; omega)
  | event found =>
    have hcount := increment?_eq_some d.stats.credentialEvents (by omega)
    refine ⟨{ d with stats := { d.stats with
      credentialEvents := d.stats.credentialEvents + 1 } }, ?_, rfl, ?_, ⟨rfl, rfl, rfl⟩⟩
    · simp only [count?, hcount, Option.bind_eq_bind, Option.bind_some, Option.pure_def]
    · exact h.sort _ rfl rfl (by dsimp only; omega)

theorem truncate?_eq_some (h : d.InBounds pending) (htruncated : d.stats.truncated = 0) :
    ∃ d', d.truncate? = some d' ∧ d'.view = d.view.truncate ∧ d'.InBounds 0 ∧ d.Stays d' := by
  have hsorted := h.sorted_le
  have hcount := increment?_eq_some d.stats.truncated (by omega)
  refine ⟨{ d with
    finished := true, stats := { d.stats with truncated := d.stats.truncated + 1 } }, ?_, rfl, ?_,
    ⟨rfl, rfl, rfl⟩⟩
  · simp only [truncate?, hcount, Option.bind_eq_bind, Option.bind_some, Option.pure_def]
  · refine ⟨h.length_lt, h.offset_le, h.frames_le, ?_, ?_⟩
    · exact Nat.le_trans (Nat.le_add_right _ pending) hsorted
    · simp [htruncated]

theorem goesAlong_judgePayload? (payload : Bytes) (h : d.InBounds 1)
    (htruncated : d.stats.truncated = 0) (hmoves : start.Moves d) :
    start.GoesAlong (d.judgePayload? payload) (d.view.judgePayload payload) := by
  unfold judgePayload? Decoder.judgePayload
  rw [Guarded.payloadEvent_eq_granted]
  rcases payloadEvent? payload with fault | _ | event
  · obtain ⟨d', htruncate, hview, hin, hstays⟩ := truncate?_eq_some h htruncated
    refine ⟨d', ?_, hview, hin, hmoves.stay hstays⟩
    simp [Guarded.granted, htruncate]
  · obtain ⟨d', hcount, hview, hin, hstays⟩ := count?_eq_some h .other
    refine ⟨d', ?_, hview, hin, hmoves.stay hstays⟩
    simp [Guarded.granted, hcount]
  · obtain ⟨d', hcount, hview, hin, hstays⟩ := count?_eq_some h (.event event)
    refine ⟨d', ?_, hview, hin, hmoves.stay hstays⟩
    simp [Guarded.granted, hcount]

/-- A marker ends the walk with the frame counted and sorted as nothing. -/
theorem goesAlong_interrupt (interruption : Interruption) (h : d.InBounds 1)
    (htruncated : d.stats.truncated = 0) (hmoves : start.Moves d) :
    start.GoesAlong (some (.ended none, d.interrupt interruption))
      (.ended none, d.view.interrupt interruption) := by
  refine ⟨d.interrupt interruption, rfl, rfl, ?_, hmoves.stay ⟨rfl, rfl, rfl⟩⟩
  refine ⟨h.length_lt, h.offset_le, h.frames_le, Nat.le_of_succ_le h.sorted_le, ?_⟩
  simp [interrupt, htruncated]

theorem goesAlong_judgeFrame? (kind : UInt16) (payload : Bytes) (h : d.InBounds 1)
    (htruncated : d.stats.truncated = 0) (hmoves : start.Moves d) :
    start.GoesAlong (d.judgeFrame? kind payload) (d.view.judgeFrame kind payload) := by
  unfold judgeFrame? Decoder.judgeFrame
  by_cases hnoop : kind = noopKind
  · rw [if_pos hnoop, if_pos hnoop]
    obtain ⟨d', hcount, hview, hin, hstays⟩ := count?_eq_some h .noop
    refine ⟨d', ?_, hview, hin, hmoves.stay hstays⟩
    simp [hcount]
  rw [if_neg hnoop, if_neg hnoop]
  by_cases herror : kind = errorKind
  · rw [if_pos herror, if_pos herror]
    exact goesAlong_interrupt .error h htruncated hmoves
  rw [if_neg herror, if_neg herror]
  by_cases hoverrun : kind = overrunKind
  · rw [if_pos hoverrun, if_pos hoverrun]
    exact goesAlong_interrupt .overrun h htruncated hmoves
  rw [if_neg hoverrun, if_neg hoverrun]
  by_cases hdone : kind = doneKind
  · rw [if_pos hdone, if_pos hdone]
    have hstopped : d.stop.InBounds 1 :=
      ⟨h.length_lt, h.offset_le, h.frames_le, h.sorted_le, by simp [stop, htruncated]⟩
    exact goesAlong_judgePayload? payload hstopped htruncated (hmoves.stay ⟨rfl, rfl, rfl⟩)
  · rw [if_neg hdone, if_neg hdone]
    exact goesAlong_judgePayload? payload h htruncated hmoves

theorem toNat_min (a b : UInt64) : (min a b).toNat = min a.toNat b.toNat := by
  have hmin : min a b = if a ≤ b then a else b := rfl
  rw [hmin, Nat.min_def]
  simp only [UInt64.le_iff_toNat_le]
  split <;> rfl

/-- Going past a complete frame the offset grows by all of it, but not past the end of the batch. -/
theorem advance?_eq_some (h : d.InBounds 0) (hfinished : d.finished = false) (length : UInt64)
    (hsize : 16 ≤ length.toNat) (hcomplete : d.offset.toNat + length.toNat ≤ d.bytes.length)
    (hword : length.toNat < 2 ^ 32) :
    ∃ d', d.advance? length = some d' ∧ d'.view = d.view.advance length.toNat ∧ d'.InBounds 1 ∧
      d'.stats.truncated = 0 ∧ d.Moves d' := by
  have hlength := h.length_lt
  have hframes := h.frames_le
  have hsorted := h.sorted_le
  have hge := Decoder.align_ge length.toNat
  have halign : align length.toNat ≤ length.toNat + 3 := by
    unfold align
    omega
  obtain ⟨aligned, haligned, halignedNat⟩ := alignWord?_eq_some length hword
  obtain ⟨behind, hbehind, hbehindNat⟩ := addWord?_eq_some d.offset aligned (by omega)
  have hcount := increment?_eq_some d.stats.frames h.frames_lt
  have hend : (UInt64.ofNat d.bytes.length).toNat = d.bytes.length :=
    UInt64.toNat_ofNat_of_lt' (Nat.lt_trans hlength (by decide))
  let offset := min behind (UInt64.ofNat d.bytes.length)
  have hoffset : offset.toNat = min (d.offset.toNat + align length.toNat) d.bytes.length := by
    rw [toNat_min, hbehindNat, halignedNat, hend]
  have htruncated := h.truncated_eq hfinished
  refine ⟨{ d with offset, stats := { d.stats with frames := d.stats.frames + 1 } }, ?_, ?_, ?_,
    htruncated, ?_⟩
  · simp only [advance?, haligned, hbehind, hcount, Option.bind_eq_bind, Option.bind_some,
      Option.pure_def, offset]
  · have hrest : (d.bytes.drop d.offset.toNat).drop (align length.toNat) =
        d.bytes.drop offset.toNat := by
      rw [List.drop_drop, hoffset]
      rcases Nat.le_total (d.offset.toNat + align length.toNat) d.bytes.length with hle | hle
      · rw [Nat.min_eq_left hle]
      · rw [Nat.min_eq_right hle, List.drop_length, List.drop_eq_nil_of_le hle]
    have hskipped : d.offset.toNat +
        (if Bytes.shorterThan (d.bytes.drop d.offset.toNat) (align length.toNat) then
          (d.bytes.drop d.offset.toNat).length else align length.toNat) = offset.toNat := by
      rw [hoffset]
      split
      · rename_i hshort
        rw [Bytes.shorterThan_iff, List.length_drop] at hshort
        rw [List.length_drop]
        omega
      · rename_i hlong
        rw [Bytes.shorterThan_iff, List.length_drop] at hlong
        omega
    simp only [view, Decoder.advance, Decoder.mk.injEq]
    exact ⟨hrest.symm, hskipped.symm, trivial, trivial, trivial⟩
  · refine ⟨hlength, ?_, ?_, ?_, ?_⟩
    · rw [hoffset]
      exact Nat.min_le_right _ _
    · dsimp only
      rw [hoffset]
      omega
    · dsimp only
      omega
    · exact h.truncated_le
  · refine .passes rfl rfl ?_
    rw [UInt64.lt_iff_toNat_lt, hoffset]
    omega

/-- A complete frame is cut out, gone past and judged. -/
theorem goesAlong_frame? (h : d.InBounds 0) (hfinished : d.finished = false) (header : FrameHeader)
    (hsize : FrameHeader.size ≤ header.length.toNat)
    (hcomplete : header.length.toNat ≤ d.view.rest.length) :
    d.GoesAlong
      (do
        let payload ← d.view.rest.range? 16 header.length.toUInt64
        let advanced ← d.advance? header.length.toUInt64
        advanced.judgeFrame? header.kind payload)
      ((d.view.advance header.length.toNat).judgeFrame header.kind
        (d.view.rest.slice FrameHeader.size (header.length.toNat - FrameHeader.size))) := by
  have hlength : header.length.toUInt64.toNat = header.length.toNat :=
    UInt32.toNat_toUInt64 header.length
  have hword := header.length.toNat_lt
  have hleft : d.view.rest.length = d.bytes.length - d.offset.toNat := List.length_drop
  have hend : d.offset.toNat + header.length.toNat ≤ d.bytes.length := by
    have hoffset := h.offset_le
    omega
  have hrange : d.view.rest.range? 16 header.length.toUInt64 =
      some (d.view.rest.slice FrameHeader.size (header.length.toNat - FrameHeader.size)) := by
    rw [Bytes.range?_eq_some _ _ _ (by rwa [hlength]) (by rwa [hlength]), hlength]
    rfl
  obtain ⟨d', hadvance, hview, hin, htruncated, hmoves⟩ := advance?_eq_some h hfinished
    header.length.toUInt64 (by rwa [hlength]) (by rwa [hlength]) (by rwa [hlength])
  rw [hlength] at hview
  simp only [hrange, hadvance, Option.bind_eq_bind, Option.bind_some]
  rw [← hview]
  exact goesAlong_judgeFrame? header.kind _ hin htruncated hmoves

/-- A frame is cut out of what is left after its length has been compared with that. -/
theorem goesAlong_step? (h : d.InBounds 0) : d.GoesAlong d.step? d.view.step := by
  cases hfinished : d.finished with
  | true =>
    rw [d.view.step_of_finished hfinished, step?, if_pos hfinished]
    exact ⟨d, rfl, rfl, h, .stays ⟨rfl, rfl, rfl⟩⟩
  | false =>
    have htruncated := h.truncated_eq hfinished
    have hgoing : ¬ d.finished = true := by simp [hfinished]
    have hgoing' : ¬ d.view.finished = true := hgoing
    have hrest : d.bytes.from? d.offset = some d.view.rest := d.bytes.from?_eq_some _ h.offset_le
    unfold step? Decoder.step
    rw [if_neg hgoing, if_neg hgoing', hrest]
    simp only [Option.bind_eq_bind, Option.bind_some]
    by_cases hempty : d.view.rest.isEmpty = true
    · rw [if_pos hempty, if_pos hempty]
      refine ⟨d.stop, rfl, rfl, ?_, .stays ⟨rfl, rfl, rfl⟩⟩
      exact ⟨h.length_lt, h.offset_le, h.frames_le, h.sorted_le, by simp [stop, htruncated]⟩
    rw [if_neg hempty, if_neg hempty, Guarded.frameHeader_eq_granted]
    -- from here on the rest is either given up or starts with a complete frame
    obtain ⟨given, hgiven, hview, hin, hstays⟩ := truncate?_eq_some h htruncated
    rcases FrameHeader.parse d.view.rest with fault | header
    · refine ⟨given, ?_, hview, hin, .stays hstays⟩
      simp [Guarded.granted, hgiven]
    have hlength : header.length.toUInt64.toNat = header.length.toNat :=
      UInt32.toNat_toUInt64 header.length
    have hshort : header.length.toUInt64 < 16 ↔ header.length.toNat < FrameHeader.size := by
      rw [UInt64.lt_iff_toNat_lt, hlength]
      rfl
    simp only [Guarded.granted, ExceptT.run, ExceptT.mk, Option.bind_some, hlength, hshort]
    split
    · refine ⟨given, ?_, hview, hin, .stays hstays⟩
      rw [hgiven]
      rfl
    · rename_i hcomplete
      simp only [Bool.or_eq_true, decide_eq_true_eq, not_or, Nat.not_lt, Bytes.shorterThan_iff]
        at hcomplete
      exact goesAlong_frame? h hfinished header hcomplete.1 hcomplete.2

end

/-! ## Calls -/

/-- The decoders that steps lead to from the start of a batch. -/
inductive Reached (bytes : Bytes) : GuardedDecoder → Prop where
  | start : Reached bytes (ofBatch bytes)
  | step {d d' : GuardedDecoder} {verdict : Decoder.Verdict} (hreached : Reached bytes d)
      (hstep : d.step? = some (verdict, d')) : Reached bytes d'

/-- A call for the next event comes to an end: it takes a step for every frame that is skipped, and
none of its steps is refused. -/
inductive Returns : GuardedDecoder → Option Event → GuardedDecoder → Prop where
  | yields {d d' : GuardedDecoder} {event : Event}
      (hstep : d.step? = some (.yielded event, d')) : Returns d (some event) d'
  | ends {d d' : GuardedDecoder} {fault : Option WireError}
      (hstep : d.step? = some (.ended fault, d')) : Returns d none d'
  | goesOn {d d' last : GuardedDecoder} {answer : Option Event}
      (hstep : d.step? = some (.skipped, d')) (hlater : Returns d' answer last) :
      Returns d answer last

/-- One call after the other comes to an end. -/
inductive Answers : GuardedDecoder → List (Option Event) → GuardedDecoder → Prop where
  | none (d : GuardedDecoder) : Answers d [] d
  | call {d d' last : GuardedDecoder} {answer : Option Event} {answers : List (Option Event)}
      (hcall : d.Returns answer d') (hlater : Answers d' answers last) :
      Answers d (answer :: answers) last

variable {bytes : Bytes} {d : GuardedDecoder}

theorem Moves.bytes_eq {d' : GuardedDecoder} (h : d.Moves d') : d'.bytes = d.bytes := by
  cases h with
  | stays h => exact h.bytes
  | passes bytes frames offset => exact bytes

theorem inBounds_ofBatch (hsize : bytes.length < 2 ^ 63) : (ofBatch bytes).InBounds 0 :=
  ⟨hsize, Nat.zero_le _, Nat.le_refl 0, Nat.le_refl 0, Nat.zero_le _⟩

theorem Reached.inBounds (hsize : bytes.length < 2 ^ 63) (h : Reached bytes d) :
    d.bytes = bytes ∧ d.InBounds 0 := by
  induction h with
  | start => exact ⟨rfl, inBounds_ofBatch hsize⟩
  | step hreached hstep ih =>
    obtain ⟨hbytes, hin⟩ := ih
    obtain ⟨found, hfound, -, hin', hmoves⟩ := goesAlong_step? hin
    obtain ⟨-, rfl⟩ := Prod.mk.inj (Option.some.inj (hstep.symm.trans hfound))
    exact ⟨hmoves.bytes_eq.trans hbytes, hin'⟩

/-- A call comes to an end where the call of the decoder does that keeps what is left. -/
theorem exists_returns (h : d.InBounds 0) :
    ∃ d', d.Returns d.view.next.1 d' ∧ d'.view = d.view.next.2.1 ∧ d'.InBounds 0 := by
  obtain ⟨kept, hkept⟩ : ∃ kept, d.view = kept := ⟨_, rfl⟩
  rw [hkept]
  induction kept using Decoder.walk_induction generalizing d with
  | yielded kept kept' event hstep _ =>
    obtain ⟨d', hstep', hview, hin, -⟩ := goesAlong_step? h
    rw [hkept, hstep] at hstep' hview
    rw [kept.next_of_yielded kept' event hstep]
    exact ⟨d', .yields hstep', hview, hin⟩
  | skipped kept kept' hstep ih =>
    obtain ⟨d', hstep', hview, hin, -⟩ := goesAlong_step? h
    rw [hkept, hstep] at hstep' hview
    rw [kept.next_of_skipped kept' hstep]
    obtain ⟨last, hlater, hlast⟩ := ih hin hview
    exact ⟨last, .goesOn hstep' hlater, hlast⟩
  | ended kept kept' fault hstep =>
    obtain ⟨d', hstep', hview, hin, -⟩ := goesAlong_step? h
    rw [hkept, hstep] at hstep' hview
    rw [kept.next_of_ended kept' fault hstep]
    exact ⟨d', .ends hstep', hview, hin⟩

theorem exists_answers (h : d.InBounds 0) (calls : Nat) :
    ∃ last, d.Answers (d.view.answers calls) last ∧ last.view = d.view.afterCalls calls := by
  induction calls generalizing d with
  | zero => exact ⟨d, .none d, rfl⟩
  | succ calls ih =>
    obtain ⟨d', hcall, hview, hin⟩ := exists_returns h
    obtain ⟨last, hlater, hlast⟩ := ih hin
    rw [hview] at hlater hlast
    exact ⟨last, .call hcall hlater, hlast⟩

/-- On whatever batch fits into memory, no guard of the decoder ever refuses. Each decoder that is
reached has its offset in the batch and can take a step, which moves the offset on if it counts a
frame and leaves it alone if not. And any number of calls come to an end, with the answers of the
decoder that keeps only what is left. -/
theorem no_guard_refuses (bytes : Bytes) (hsize : bytes.length < 2 ^ 63) :
    (∀ d, Reached bytes d → d.bytes = bytes ∧ d.offset.toNat ≤ bytes.length ∧
      ∃ verdict d', d.step? = some (verdict, d') ∧ d.Moves d') ∧
      ∀ calls, ∃ last,
        (ofBatch bytes).Answers ((Decoder.ofBatch bytes).answers calls) last ∧
          last.view = (Decoder.ofBatch bytes).afterCalls calls := by
  constructor
  · intro d hreached
    obtain ⟨hbytes, hin⟩ := hreached.inBounds hsize
    obtain ⟨d', hstep, -, -, hmoves⟩ := goesAlong_step? hin
    refine ⟨hbytes, ?_, _, d', hstep, hmoves⟩
    rw [← hbytes]
    exact hin.offset_le
  · exact exists_answers (inBounds_ofBatch hsize)

/-- A last frame of seventeen bytes without padding, of which the offset stays at the end of the
batch, and a header that declares as many bytes as it can. -/
theorem no_guard_refuses_unaligned_end :
    let unaligned : Bytes := identityFrame 16 userChanged ⟨5, 5, 1, 2⟩ ++
      FrameHeader.toBytes ⟨17, 16, 0, 0, 0⟩ ++ [7]
    let overlong : Bytes := FrameHeader.toBytes ⟨4294967295, 16, 0, 0, 0⟩ ++ [7]
    unaligned.length = 85 ∧ overlong.length = 17 ∧
      (∃ last, (ofBatch unaligned).Answers [some ⟨5, 5, .user, 1, 2⟩, none, none] last ∧
        last.offset.toNat = 85 ∧ last.stats = ⟨2, 0, 1, 0, 1⟩) ∧
      ∃ last, (ofBatch overlong).Answers [none] last ∧ last.offset.toNat = 0 ∧
        last.stats = ⟨0, 0, 0, 0, 1⟩ := by
  intro unaligned overlong
  have hunaligned : unaligned.length = 85 := by decide +kernel
  have hoverlong : overlong.length = 17 := by decide +kernel
  obtain ⟨last, hanswers, hview⟩ := (no_guard_refuses unaligned (by omega)).2 3
  obtain ⟨last', hanswers', hview'⟩ := (no_guard_refuses overlong (by omega)).2 1
  have hevents : (Decoder.ofBatch unaligned).answers 3 =
      [some ⟨5, 5, .user, 1, 2⟩, none, none] := by decide +kernel
  have hnone : (Decoder.ofBatch overlong).answers 1 = [none] := by decide +kernel
  rw [hevents] at hanswers
  rw [hnone] at hanswers'
  refine ⟨hunaligned, hoverlong, ⟨last, hanswers, ?_, ?_⟩, last', hanswers', ?_, ?_⟩
  · exact (congrArg Decoder.offset hview).trans (by decide +kernel)
  · exact (congrArg Decoder.stats hview).trans (by decide +kernel)
  · exact (congrArg Decoder.offset hview').trans (by decide +kernel)
  · exact (congrArg Decoder.stats hview').trans (by decide +kernel)

end GuardedDecoder

end Regroup.Netlink
