import Regroup.Netlink.Batch
import Regroup.Proofs.Netlink.Record

/-!
# Draining a batch frame by frame

Draining is judging frames until one ends the walk: a skipped frame leaves the events to the frames
behind it, and a yielded event comes before theirs. A complete frame at the start of what is left is
judged by its kind and payload alone, and what follows its padding is left for the next step.
-/

namespace Regroup.Netlink

open Credential (Event)
open Log (Record)

namespace Decoder

theorem drain_of_next_eq_some (d d' : Decoder) (event : Event) (records : List Record)
    (h : d.next = (some event, d', records)) :
    d.drain = (event :: d'.drain.1, d'.drain.2.1, records ++ d'.drain.2.2) := by
  rw [drain]
  split
  · rename_i hnext
    rw [h] at hnext
    obtain ⟨⟨⟩, rfl, rfl⟩ := hnext
    rfl
  · rename_i hnext
    rw [h] at hnext
    cases hnext

theorem drain_of_next_eq_none (d d' : Decoder) (records : List Record)
    (h : d.next = (none, d', records)) : d.drain = ([], d', records) := by
  rw [drain]
  split
  · rename_i hnext
    rw [h] at hnext
    cases hnext
  · rename_i hnext
    rw [h] at hnext
    obtain ⟨-, rfl, rfl⟩ := hnext
    rfl

theorem next_of_yielded (d d' : Decoder) (event : Event) (h : d.step = (.yielded event, d')) :
    d.next = (some event, d', []) := by
  rw [next]
  split <;> rename_i hstep <;> rw [h] at hstep
  · obtain ⟨⟨⟩, rfl⟩ := hstep
    rfl
  · cases hstep
  · cases hstep

theorem next_of_skipped (d d' : Decoder) (h : d.step = (.skipped, d')) : d.next = d'.next := by
  rw [next]
  split <;> rename_i hstep <;> rw [h] at hstep
  · cases hstep
  · obtain ⟨-, rfl⟩ := hstep
    rfl
  · cases hstep

theorem next_of_ended (d d' : Decoder) (fault : Option WireError)
    (h : d.step = (.ended fault, d')) : d.next = (none, d', d'.faultRecords fault) := by
  rw [next]
  split <;> rename_i hstep <;> rw [h] at hstep
  · cases hstep
  · cases hstep
  · obtain ⟨⟨⟩, rfl⟩ := hstep
    rfl

theorem drain_of_yielded (d d' : Decoder) (event : Event) (h : d.step = (.yielded event, d')) :
    d.drain = (event :: d'.drain.1, d'.drain.2.1, d'.drain.2.2) :=
  d.drain_of_next_eq_some d' event [] (d.next_of_yielded d' event h)

theorem drain_of_skipped (d d' : Decoder) (h : d.step = (.skipped, d')) : d.drain = d'.drain := by
  have hnext := d.next_of_skipped d' h
  rcases hrest : d'.next with ⟨_ | event, d'', records⟩ <;> rw [hrest] at hnext
  · rw [d.drain_of_next_eq_none d'' records hnext, d'.drain_of_next_eq_none d'' records hrest]
  · rw [d.drain_of_next_eq_some d'' event records hnext,
      d'.drain_of_next_eq_some d'' event records hrest]

theorem drain_of_ended (d d' : Decoder) (fault : Option WireError)
    (h : d.step = (.ended fault, d')) : d.drain = ([], d', d'.faultRecords fault) :=
  d.drain_of_next_eq_none d' _ (d.next_of_ended d' fault h)

theorem drain_of_finished (d : Decoder) (h : d.finished = true) : d.drain = ([], d, []) :=
  d.drain_of_ended d none (by simp [step, h])

/-- Whatever holds of the decoder at the end of the walk, and is carried back over every frame that
is yielded or skipped, holds of every decoder. -/
theorem walk_induction {motive : Decoder → Prop}
    (yielded : ∀ d d' event, d.step = (.yielded event, d') → motive d' → motive d)
    (skipped : ∀ d d', d.step = (.skipped, d') → motive d' → motive d)
    (ended : ∀ d d' fault, d.step = (.ended fault, d') → motive d) (d : Decoder) : motive d := by
  rcases hstep : d.step with ⟨event | _ | fault, d'⟩
  · have hlt := d.step_rest_lt (by simp [hstep])
    exact yielded d d' event hstep (walk_induction yielded skipped ended d')
  · have hlt := d.step_rest_lt (by simp [hstep])
    exact skipped d d' hstep (walk_induction yielded skipped ended d')
  · exact ended d d' fault hstep
termination_by d.rest.length
decreasing_by all_goals simpa [hstep] using hlt

/-! ## Complete frames -/

/-- The length that the frame at the start of what is left declares. -/
def declared (d : Decoder) : Nat :=
  (FrameHeader.ofBytes d.rest).length.toNat

/-- Whether the walk goes on and what is left starts with all of the frame that is declared. -/
structure IsAtFrame (d : Decoder) : Prop where
  unfinished : d.finished = false
  size_le : FrameHeader.size ≤ d.declared
  declared_le : d.declared ≤ d.rest.length

/-- Judges a complete frame with the decoder that has gone past it. -/
def judgeFrame (d : Decoder) (kind : UInt16) (payload : Bytes) : Verdict × Decoder :=
  if kind = noopKind then (.skipped, d.countNoop)
  else if kind = errorKind then (.ended none, d.interrupt .error)
  else if kind = overrunKind then (.ended none, d.interrupt .overrun)
  else if kind = doneKind then d.stop.judgePayload payload
  else d.judgePayload payload

@[simp]
theorem judgeFrame_noop (d : Decoder) (payload : Bytes) :
    d.judgeFrame noopKind payload = (.skipped, d.countNoop) := by
  rw [judgeFrame, if_pos rfl]

@[simp]
theorem judgeFrame_error (d : Decoder) (payload : Bytes) :
    d.judgeFrame errorKind payload = (.ended none, d.interrupt .error) := by
  have hnoop : errorKind ≠ noopKind := by decide
  rw [judgeFrame, if_neg hnoop, if_pos rfl]

@[simp]
theorem judgeFrame_overrun (d : Decoder) (payload : Bytes) :
    d.judgeFrame overrunKind payload = (.ended none, d.interrupt .overrun) := by
  have hnoop : overrunKind ≠ noopKind := by decide
  have herror : overrunKind ≠ errorKind := by decide
  rw [judgeFrame, if_neg hnoop, if_neg herror, if_pos rfl]

/-- A final frame is judged like others after the walk has been stopped. -/
@[simp]
theorem judgeFrame_done (d : Decoder) (payload : Bytes) :
    d.judgeFrame doneKind payload = d.stop.judgePayload payload := by
  have hnoop : doneKind ≠ noopKind := by decide
  have herror : doneKind ≠ errorKind := by decide
  have hoverrun : doneKind ≠ overrunKind := by decide
  rw [judgeFrame, if_neg hnoop, if_neg herror, if_neg hoverrun, if_pos rfl]

theorem judgeFrame_of_other (d : Decoder) (kind : UInt16) (payload : Bytes)
    (h : kind ∉ [noopKind, errorKind, doneKind, overrunKind]) :
    d.judgeFrame kind payload = d.judgePayload payload := by
  simp only [List.mem_cons, List.not_mem_nil, or_false, not_or] at h
  obtain ⟨hnoop, herror, hdone, hoverrun⟩ := h
  rw [judgeFrame, if_neg hnoop, if_neg herror, if_neg hoverrun, if_neg hdone]

theorem step_of_isAtFrame (d : Decoder) (h : d.IsAtFrame) :
    d.step = (d.advance d.declared).judgeFrame (FrameHeader.ofBytes d.rest).kind
      (d.rest.slice FrameHeader.size (d.declared - FrameHeader.size)) := by
  have hsize := h.size_le
  have hdeclared := h.declared_le
  have hpositive : 0 < FrameHeader.size := by decide
  have hempty : d.rest.isEmpty = false := by
    rw [List.isEmpty_eq_false_iff, ne_eq, ← List.length_eq_zero_iff]
    omega
  have hcomplete : d.rest.shorterThan d.declared = false := by
    rw [Bool.eq_false_iff, ne_eq, Bytes.shorterThan_iff]
    omega
  have hheader := FrameHeader.parse_eq_ok d.rest (Nat.le_trans hsize hdeclared)
  have hlong : ¬ d.declared < FrameHeader.size := by omega
  unfold declared at *
  simp only [step, h.unfinished, hempty, hheader, hlong, hcomplete, judgeFrame,
    Bool.false_eq_true, if_false, decide_false, Bool.or_self]

theorem step_of_not_isAtFrame (d : Decoder) (h : ¬ d.IsAtFrame) :
    ∃ fault, d.step.1 = .ended fault := by
  unfold step
  split
  · exact ⟨_, rfl⟩
  rename_i hfinished
  split
  · exact ⟨_, rfl⟩
  split
  · exact ⟨_, rfl⟩
  rename_i header hheader
  obtain ⟨-, -, hparsed⟩ := (bind_eq_ok_iff _ _ _).1 hheader
  obtain rfl := Except.ok.inj hparsed
  dsimp only
  split
  · exact ⟨_, rfl⟩
  rename_i hlength
  simp only [Bool.or_eq_true, decide_eq_true_eq, not_or, Nat.not_lt, Bytes.shorterThan_iff]
    at hlength
  exact absurd ⟨by simpa using hfinished, hlength.1, hlength.2⟩ h

theorem judgeFrame_rest (d : Decoder) (kind : UInt16) (payload : Bytes) :
    (d.judgeFrame kind payload).2.rest = d.rest := by
  unfold judgeFrame
  split
  · rfl
  split
  · rfl
  split
  · rfl
  split
  · exact d.stop.judgePayload_rest payload
  · exact d.judgePayload_rest payload

theorem payloadEvent?_of_judgePayload (d d' : Decoder) (payload : Bytes) (event : Event)
    (h : d.judgePayload payload = (.yielded event, d')) :
    payloadEvent? payload = .ok (some event) := by
  unfold judgePayload at h
  split at h
  · rename_i found hpayload
    obtain ⟨⟨⟩, -⟩ := h
    exact hpayload
  · cases h
  · cases h

theorem payloadEvent?_of_judgeFrame (d d' : Decoder) (kind : UInt16) (payload : Bytes)
    (event : Event) (h : d.judgeFrame kind payload = (.yielded event, d')) :
    payloadEvent? payload = .ok (some event) := by
  unfold judgeFrame at h
  split at h
  · cases h
  split at h
  · cases h
  split at h
  · cases h
  split at h
  · exact payloadEvent?_of_judgePayload d.stop d' payload event h
  · exact payloadEvent?_of_judgePayload d d' payload event h

/-- A frame that is yielded or skipped is complete, and the walk goes on behind its padding. -/
theorem rest_of_step (d d' : Decoder) (verdict : Verdict) (h : d.step = (verdict, d'))
    (hverdict : ∀ fault, verdict ≠ .ended fault) :
    d.IsAtFrame ∧ d'.rest = d.rest.drop (align d.declared) := by
  by_cases hframe : d.IsAtFrame
  · refine ⟨hframe, ?_⟩
    have hrest := (d.advance d.declared).judgeFrame_rest (FrameHeader.ofBytes d.rest).kind
      (d.rest.slice FrameHeader.size (d.declared - FrameHeader.size))
    rw [← d.step_of_isAtFrame hframe, h] at hrest
    exact hrest
  · obtain ⟨fault, hfault⟩ := d.step_of_not_isAtFrame hframe
    rw [h] at hfault
    exact absurd hfault (hverdict fault)

/-- Goes past a frame of the given length to the bytes behind it. -/
def pass (d : Decoder) (length : Nat) (tail : Bytes) : Decoder :=
  { d with
    rest := tail
    offset := d.offset + align length
    stats := { d.stats with frames := d.stats.frames + 1 } }

/-- The frame ends where its header says, and its padding brings the next one to a multiple of
four. -/
theorem step_of_frame (d : Decoder) (header : FrameHeader) (payload padding tail : Bytes)
    (hfinished : d.finished = false)
    (hrest : d.rest = header.toBytes ++ payload ++ padding ++ tail)
    (hlength : header.length.toNat = FrameHeader.size + payload.length)
    (hpadding : header.length.toNat + padding.length = align header.length.toNat) :
    d.step = (d.pass header.length.toNat tail).judgeFrame header.kind payload := by
  have hsize : header.toBytes.length = FrameHeader.size := header.length_toBytes
  have hheader : FrameHeader.ofBytes d.rest = header := by
    rw [hrest, List.append_assoc, List.append_assoc, FrameHeader.ofBytes_toBytes_append]
  have hdeclared : d.declared = header.length.toNat := by
    rw [declared, hheader]
  have htotal : d.rest.length = align header.length.toNat + tail.length := by
    simp only [hrest, List.length_append, hsize]
    omega
  have hge := align_ge header.length.toNat
  have hpayload : d.rest.slice FrameHeader.size (header.length.toNat - FrameHeader.size) =
      payload := by
    rw [hrest, List.append_assoc, List.append_assoc,
      Bytes.slice_append_right _ _ _ _ (Nat.le_of_eq hsize), hsize, Nat.sub_self, hlength,
      Nat.add_sub_cancel_left, Bytes.slice_append_left _ _ _ _ (by omega), Bytes.slice_self]
  have hadvance : d.advance header.length.toNat = d.pass header.length.toNat tail := by
    have htail : d.rest.drop (align header.length.toNat) = tail := by
      rw [hrest, List.drop_left']
      simp only [List.length_append, hsize]
      omega
    have haligned : d.rest.shorterThan (align header.length.toNat) = false := by
      rw [Bool.eq_false_iff, ne_eq, Bytes.shorterThan_iff]
      omega
    simp only [advance, pass, htail, haligned, Bool.false_eq_true, if_false]
  have hframe : d.IsAtFrame := ⟨hfinished, by omega, by omega⟩
  rw [d.step_of_isAtFrame hframe, hheader, hdeclared, hpayload, hadvance]

/-! ## Where an event is read -/

/-- The fields of the event are those of the frame that starts at the offset. -/
structure IsReadAt (bytes : Bytes) (start : Nat) (event : Event) : Prop where
  kind : kindOf? (bytes.word32At (start + 36)) = some event.kind
  process : event.process = (bytes.word32At (start + 52)).toInt32
  threadGroup : event.threadGroup = (bytes.word32At (start + 56)).toInt32
  real : event.real = bytes.word32At (start + 60)
  effective : event.effective = bytes.word32At (start + 64)

/-- The offsets that frames start at: the first one, and behind the padding of each. -/
inductive StartsFrame (bytes : Bytes) : Nat → Prop where
  | first : StartsFrame bytes 0
  | next (start : Nat) (h : StartsFrame bytes start) :
      StartsFrame bytes
        (start + align (FrameHeader.ofBytes (bytes.drop start)).length.toNat)

theorem eventOf?_eq_some (data : Bytes) (event : Event) (h : eventOf? data = .ok (some event)) :
    32 ≤ data.length ∧ kindOf? (data.word32At 0) = some event.kind ∧
      event.process = (data.word32At 16).toInt32 ∧
      event.threadGroup = (data.word32At 20).toInt32 ∧ event.real = data.word32At 24 ∧
      event.effective = data.word32At 28 := by
  obtain ⟨header, hheader, hrest⟩ := (bind_eq_ok_iff _ _ _).1 h
  obtain ⟨-, -, hparsed⟩ := (bind_eq_ok_iff _ _ _).1 hheader
  obtain rfl := Except.ok.inj hparsed
  split at hrest
  · cases hrest
  rename_i kind hkind
  obtain ⟨record, hrecord, hevent⟩ := (bind_eq_ok_iff _ _ _).1 hrest
  obtain ⟨⟨⟩, hlong, hread⟩ := (bind_eq_ok_iff _ _ _).1 hrecord
  obtain rfl := Except.ok.inj hread
  obtain rfl := Option.some.inj (Except.ok.inj hevent)
  have hlength := (require_eq_ok_iff _ _ _).1 hlong
  simp only [List.length_drop, IdentityRecord.size, EventHeader.size] at hlength
  simp only [IdentityRecord.ofBytes, Bytes.word32At_drop]
  exact ⟨by omega, hkind, rfl, rfl, rfl, rfl⟩

theorem payloadEvent?_eq_some (payload : Bytes) (event : Event)
    (h : payloadEvent? payload = .ok (some event)) :
    52 ≤ payload.length ∧ kindOf? (payload.word32At 20) = some event.kind ∧
      event.process = (payload.word32At 36).toInt32 ∧
      event.threadGroup = (payload.word32At 40).toInt32 ∧ event.real = payload.word32At 44 ∧
      event.effective = payload.word32At 48 := by
  obtain ⟨header, -, hrest⟩ := (bind_eq_ok_iff _ _ _).1 h
  split at hrest
  · obtain ⟨⟨⟩, -, hevent⟩ := (bind_eq_ok_iff _ _ _).1 hrest
    have hdata := eventOf?_eq_some _ event hevent
    simp only [List.length_take, List.length_drop, ConnectorHeader.size] at hdata
    obtain ⟨hlength, hfields⟩ := hdata
    rw [Bytes.word32At_take _ _ _ (by omega), Bytes.word32At_take _ _ _ (by omega),
      Bytes.word32At_take _ _ _ (by omega), Bytes.word32At_take _ _ _ (by omega),
      Bytes.word32At_take _ _ _ (by omega)] at hfields
    simp only [Bytes.word32At_drop] at hfields
    exact ⟨by omega, hfields⟩
  · cases hrest

theorem isReadAt_of_step (d d' : Decoder) (event : Event) (h : d.step = (.yielded event, d')) :
    IsReadAt d.rest 0 event := by
  obtain ⟨hframe, -⟩ := d.rest_of_step d' _ h (by simp)
  rw [d.step_of_isAtFrame hframe] at h
  have hpayload := payloadEvent?_of_judgeFrame _ d' _ _ event h
  obtain ⟨hlength, hkind, hprocess, hgroup, hreal, heffective⟩ :=
    payloadEvent?_eq_some _ event hpayload
  have hsize : 52 ≤ d.declared - FrameHeader.size := by
    simp only [Bytes.slice, List.length_take, List.length_drop] at hlength
    omega
  rw [Bytes.word32At_slice _ _ _ _ (by omega)] at hkind hprocess hgroup hreal heffective
  exact ⟨hkind, hprocess, hgroup, hreal, heffective⟩

theorem IsReadAt.of_drop (bytes : Bytes) (skipped start : Nat) (event : Event)
    (h : IsReadAt (bytes.drop skipped) start event) : IsReadAt bytes (skipped + start) event := by
  obtain ⟨hkind, hprocess, hgroup, hreal, heffective⟩ := h
  simp only [Bytes.word32At_drop, ← Nat.add_assoc] at hkind hprocess hgroup hreal heffective
  exact ⟨hkind, hprocess, hgroup, hreal, heffective⟩

theorem StartsFrame.of_drop (bytes : Bytes) (start : Nat)
    (h : StartsFrame
      (bytes.drop (align (FrameHeader.ofBytes bytes).length.toNat)) start) :
    StartsFrame bytes (align (FrameHeader.ofBytes bytes).length.toNat + start) := by
  induction h with
  | first =>
    have hfirst : StartsFrame bytes 0 := .first
    simpa using hfirst.next
  | next start h ih =>
    rw [List.drop_drop, ← Nat.add_assoc]
    exact .next _ ih

/-- Every event of a walk is read from a frame of what was left at its start. -/
theorem exists_isReadAt_of_mem_drain (d : Decoder) (event : Event) (h : event ∈ d.drain.1) :
    ∃ start, StartsFrame d.rest start ∧ IsReadAt d.rest start event := by
  induction d using walk_induction with
  | yielded d d' found hstep ih =>
    rw [d.drain_of_yielded d' found hstep] at h
    rcases List.mem_cons.1 h with rfl | hlater
    · exact ⟨0, .first, d.isReadAt_of_step d' event hstep⟩
    · obtain ⟨start, hstart, hread⟩ := ih hlater
      rw [(d.rest_of_step d' _ hstep (by simp)).2] at hstart hread
      exact ⟨_, hstart.of_drop, hread.of_drop⟩
  | skipped d d' hstep ih =>
    rw [d.drain_of_skipped d' hstep] at h
    obtain ⟨start, hstart, hread⟩ := ih h
    rw [(d.rest_of_step d' _ hstep (by simp)).2] at hstart hread
    exact ⟨_, hstart.of_drop, hread.of_drop⟩
  | ended d d' fault hstep =>
    rw [d.drain_of_ended d' fault hstep] at h
    cases h

end Decoder

end Regroup.Netlink
