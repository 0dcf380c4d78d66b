import Regroup.Netlink.Frame
import Regroup.Proofs.Result

/-!
# Records in byte strings

A word is read from the bytes at its offset, so what lies before and behind them does not matter.
From this follows that every record is read back from the bytes it is written as, whatever follows
them.
-/

namespace Regroup

/-! ## Words -/

namespace Bytes

theorem slice_append_left (as bs : Bytes) (start length : Nat) (h : start + length ≤ as.length) :
    (as ++ bs).slice start length = as.slice start length := by
  unfold slice
  rw [List.drop_append_of_le_length (by omega), List.take_append_of_le_length]
  simp only [List.length_drop]
  omega

theorem slice_append_right (as bs : Bytes) (start length : Nat) (h : as.length ≤ start) :
    (as ++ bs).slice start length = bs.slice (start - as.length) length := by
  simp only [slice, List.drop_append, List.drop_eq_nil_of_le h, List.nil_append]

theorem slice_drop (bs : Bytes) (skipped start length : Nat) :
    slice (bs.drop skipped) start length = bs.slice (skipped + start) length := by
  simp only [slice, List.drop_drop]

theorem slice_take (bs : Bytes) (total start length : Nat) (h : start + length ≤ total) :
    slice (bs.take total) start length = bs.slice start length := by
  rw [slice, List.drop_take, List.take_take, Nat.min_eq_left (by omega), slice]

theorem slice_slice (bs : Bytes) (skipped total start length : Nat) (h : start + length ≤ total) :
    (bs.slice skipped total).slice start length = bs.slice (skipped + start) length :=
  (slice_take (bs.drop skipped) total start length h).trans (slice_drop bs skipped start length)

theorem length_slice (bs : Bytes) (start length : Nat) (h : start + length ≤ bs.length) :
    (bs.slice start length).length = length := by
  rw [slice, List.length_take, List.length_drop]
  omega

theorem slice_self (bs : Bytes) : bs.slice 0 bs.length = bs := by
  simp [slice]

@[simp]
theorem length_ofWord16 (w : UInt16) : (ofWord16 w).length = 2 :=
  length_ofNat 2 _

@[simp]
theorem length_ofWord32 (w : UInt32) : (ofWord32 w).length = 4 :=
  length_ofNat 4 _

@[simp]
theorem length_ofWord64 (w : UInt64) : (ofWord64 w).length = 8 :=
  length_ofNat 8 _

theorem slice_ofNat_append (width n : Nat) (bs : Bytes) :
    (ofNat width n ++ bs).slice 0 width = ofNat width n := by
  have hself := slice_self (ofNat width n)
  rw [length_ofNat] at hself
  rw [slice_append_left _ _ 0 width (by rw [length_ofNat]; omega), hself]

@[simp]
theorem word16At_ofWord16_append (w : UInt16) (bs : Bytes) :
    (ofWord16 w ++ bs).word16At 0 = w := by
  have hbound : w.toNat % Nat.pow 256 2 = w.toNat := Nat.mod_eq_of_lt w.toNat_lt
  rw [word16At, ofWord16, slice_ofNat_append, toNat_ofNat, hbound, UInt16.ofNat_toNat]

@[simp]
theorem word32At_ofWord32_append (w : UInt32) (bs : Bytes) :
    (ofWord32 w ++ bs).word32At 0 = w := by
  have hbound : w.toNat % Nat.pow 256 4 = w.toNat := Nat.mod_eq_of_lt w.toNat_lt
  rw [word32At, ofWord32, slice_ofNat_append, toNat_ofNat, hbound, UInt32.ofNat_toNat]

@[simp]
theorem word32At_ofWord32 (w : UInt32) : (ofWord32 w).word32At 0 = w := by
  simpa using word32At_ofWord32_append w []

@[simp]
theorem word64At_ofWord64_append (w : UInt64) (bs : Bytes) :
    (ofWord64 w ++ bs).word64At 0 = w := by
  have hbound : w.toNat % Nat.pow 256 8 = w.toNat := Nat.mod_eq_of_lt w.toNat_lt
  rw [word64At, ofWord64, slice_ofNat_append, toNat_ofNat, hbound, UInt64.ofNat_toNat]

theorem word16At_append_left (as bs : Bytes) (start : Nat) (h : start + 2 ≤ as.length) :
    (as ++ bs).word16At start = as.word16At start := by
  rw [word16At, slice_append_left as bs start 2 h, word16At]

theorem word32At_append_left (as bs : Bytes) (start : Nat) (h : start + 4 ≤ as.length) :
    (as ++ bs).word32At start = as.word32At start := by
  rw [word32At, slice_append_left as bs start 4 h, word32At]

theorem word16At_append_right (as bs : Bytes) (start : Nat) (h : as.length ≤ start) :
    (as ++ bs).word16At start = bs.word16At (start - as.length) := by
  rw [word16At, slice_append_right as bs start 2 h, word16At]

theorem word32At_append_right (as bs : Bytes) (start : Nat) (h : as.length ≤ start) :
    (as ++ bs).word32At start = bs.word32At (start - as.length) := by
  rw [word32At, slice_append_right as bs start 4 h, word32At]

theorem word64At_append_right (as bs : Bytes) (start : Nat) (h : as.length ≤ start) :
    (as ++ bs).word64At start = bs.word64At (start - as.length) := by
  rw [word64At, slice_append_right as bs start 8 h, word64At]

theorem word16At_drop (bs : Bytes) (skipped start : Nat) :
    word16At (bs.drop skipped) start = bs.word16At (skipped + start) := by
  rw [word16At, slice_drop, word16At]

theorem word16At_slice (bs : Bytes) (skipped length start : Nat) (h : start + 2 ≤ length) :
    (bs.slice skipped length).word16At start = bs.word16At (skipped + start) := by
  rw [word16At, slice_slice bs skipped length start 2 h, word16At]

theorem word32At_take (bs : Bytes) (total start : Nat) (h : start + 4 ≤ total) :
    word32At (bs.take total) start = bs.word32At start := by
  rw [word32At, slice_take bs total start 4 h, word32At]

theorem word32At_drop (bs : Bytes) (skipped start : Nat) :
    word32At (bs.drop skipped) start = bs.word32At (skipped + start) := by
  rw [word32At, slice_drop, word32At]

theorem word32At_slice (bs : Bytes) (skipped length start : Nat) (h : start + 4 ≤ length) :
    (bs.slice skipped length).word32At start = bs.word32At (skipped + start) := by
  rw [slice, word32At_take _ length start h, word32At_drop]

end Bytes

/-! ## Records -/

namespace Netlink

theorem require_eq_ok_iff (record : RecordKind) (size : Nat) (bs : Bytes) :
    require record size bs = .ok () ↔ size ≤ bs.length := by
  unfold require
  split
  · rename_i h
    rw [Bytes.shorterThan_iff] at h
    simpa using h
  · rename_i h
    rw [Bytes.shorterThan_iff] at h
    simpa using h

@[simp]
theorem FrameHeader.length_toBytes (h : FrameHeader) : h.toBytes.length = size := by
  simp [toBytes, size]

@[simp]
theorem ConnectorHeader.length_toBytes (h : ConnectorHeader) : h.toBytes.length = size := by
  simp [toBytes, size]

@[simp]
theorem EventHeader.length_toBytes (h : EventHeader) : h.toBytes.length = size := by
  simp [toBytes, size]

@[simp]
theorem IdentityRecord.length_toBytes (r : IdentityRecord) : r.toBytes.length = size := by
  simp [toBytes, size]

theorem FrameHeader.parse_eq_ok (bs : Bytes) (h : size ≤ bs.length) :
    parse bs = .ok (ofBytes bs) := by
  simp [parse, (require_eq_ok_iff .frameHeader size bs).2 h, bind, Except.bind, pure, Except.pure]

theorem ConnectorHeader.parse_eq_ok (bs : Bytes) (h : size ≤ bs.length) :
    parse bs = .ok (ofBytes bs) := by
  simp [parse, (require_eq_ok_iff .connectorHeader size bs).2 h, bind, Except.bind, pure,
    Except.pure]

theorem EventHeader.parse_eq_ok (bs : Bytes) (h : size ≤ bs.length) :
    parse bs = .ok (ofBytes bs) := by
  simp [parse, (require_eq_ok_iff .eventHeader size bs).2 h, bind, Except.bind, pure, Except.pure]

theorem IdentityRecord.parse_eq_ok (bs : Bytes) (h : size ≤ bs.length) :
    parse bs = .ok (ofBytes bs) := by
  simp [parse, (require_eq_ok_iff .identityRecord size bs).2 h, bind, Except.bind, pure,
    Except.pure]

theorem FrameHeader.ofBytes_toBytes_append (h : FrameHeader) (bs : Bytes) :
    ofBytes (h.toBytes ++ bs) = h := by
  simp [ofBytes, toBytes, List.append_assoc, Bytes.word16At_append_right,
    Bytes.word32At_append_right]

theorem ConnectorHeader.ofBytes_toBytes_append (h : ConnectorHeader) (bs : Bytes) :
    ofBytes (h.toBytes ++ bs) = h := by
  simp [ofBytes, toBytes, List.append_assoc, Bytes.word16At_append_right,
    Bytes.word32At_append_right]

theorem EventHeader.ofBytes_toBytes_append (h : EventHeader) (bs : Bytes) :
    ofBytes (h.toBytes ++ bs) = h := by
  simp [ofBytes, toBytes, List.append_assoc, Bytes.word32At_append_right,
    Bytes.word64At_append_right]

theorem IdentityRecord.ofBytes_toBytes_append (r : IdentityRecord) (bs : Bytes) :
    ofBytes (r.toBytes ++ bs) = r := by
  simp [ofBytes, toBytes, List.append_assoc, Bytes.word32At_append_right]

end Netlink

end Regroup
