import Mathlib.Order.Bounds.Defs
import Regroup.Proofs.Netlink.Cursor

/-!
# Records as bytes and frames as records

Each of the four records has a size, and reading and writing it are inverse to each other in both
directions: what was written is read back whatever follows it, and what was read from enough bytes
is written as the first of them. Fewer bytes than the size are refused, and the refusal names both
numbers. Reading the fields one after the other comes to the same as reading each from its place.

A connector frame is two records, the data and zeros up to the next multiple of four. The outer
record declares all but the zeros, and the inner one the data as far as sixteen bits go.
-/

namespace Regroup

namespace Bytes

theorem toNat_lt (bs : Bytes) : bs.toNat < 256 ^ bs.length := by
  induction bs with
  | nil => decide
  | cons b bs ih =>
    have hbyte := b.toNat_lt
    rw [toNat, List.length_cons, Nat.pow_succ]
    omega

theorem ofNat_toNat_slice (bs : Bytes) (start width : Nat) (h : start + width ≤ bs.length) :
    ofNat width (bs.slice start width).toNat = bs.slice start width := by
  have hself := ofNat_toNat (bs.slice start width)
  rwa [length_slice bs start width h] at hself

theorem toNat_slice_lt (bs : Bytes) (start width : Nat) (h : start + width ≤ bs.length) :
    (bs.slice start width).toNat < 256 ^ width := by
  have hbound := toNat_lt (bs.slice start width)
  rwa [length_slice bs start width h] at hbound

theorem ofWord16_word16At (bs : Bytes) (start : Nat) (h : start + 2 ≤ bs.length) :
    ofWord16 (bs.word16At start) = bs.slice start 2 := by
  rw [ofWord16, word16At, UInt16.toNat_ofNat_of_lt' (toNat_slice_lt bs start 2 h),
    ofNat_toNat_slice bs start 2 h]

theorem ofWord32_word32At (bs : Bytes) (start : Nat) (h : start + 4 ≤ bs.length) :
    ofWord32 (bs.word32At start) = bs.slice start 4 := by
  rw [ofWord32, word32At, UInt32.toNat_ofNat_of_lt' (toNat_slice_lt bs start 4 h),
    ofNat_toNat_slice bs start 4 h]

theorem ofWord64_word64At (bs : Bytes) (start : Nat) (h : start + 8 ≤ bs.length) :
    ofWord64 (bs.word64At start) = bs.slice start 8 := by
  rw [ofWord64, word64At, UInt64.toNat_ofNat_of_lt' (toNat_slice_lt bs start 8 h),
    ofNat_toNat_slice bs start 8 h]

theorem slice_append_slice (bs : Bytes) (start first second : Nat) :
    bs.slice start first ++ bs.slice (start + first) second = bs.slice start (first + second) := by
  rw [slice, slice, slice, List.take_add, List.drop_drop]

end Bytes

namespace Netlink

/-! ## Records -/

/-- A record of a fixed size is read and written without loss, and refused where it is cut. -/
structure IsCodec {α : Type} (record : RecordKind) (size : Nat) (parse : Bytes → Except WireError α)
    (fieldByField : Bytes → Guarded α) (toBytes : α → Bytes) : Prop where
  length : ∀ fields, (toBytes fields).length = size
  parse_toBytes : ∀ fields rest, parse (toBytes fields ++ rest) = .ok fields
  toBytes_parse : ∀ bs, size ≤ bs.length →
    ∃ fields, parse bs = .ok fields ∧ toBytes fields = bs.take size
  parse_short : ∀ bs, bs.length < size → parse bs = .error (.truncated record size bs.length)
  inTurn : ∀ bs, fieldByField bs = Guarded.granted (parse bs)

theorem require_eq_error (record : RecordKind) (size : Nat) (bs : Bytes) (h : bs.length < size) :
    require record size bs = .error (.truncated record size bs.length) :=
  if_pos ((Bytes.shorterThan_iff bs size).2 h)

/-- A record whose fields are read from their places once its size has been checked. -/
theorem isCodec_of_places {α : Type} {record : RecordKind} {size : Nat} {ofBytes : Bytes → α}
    {parse : Bytes → Except WireError α} {fieldByField : Bytes → Guarded α} {toBytes : α → Bytes}
    (hplaces : ∀ bs, parse bs = require record size bs >>= fun _ ↦ .ok (ofBytes bs))
    (hlength : ∀ fields, (toBytes fields).length = size)
    (hread : ∀ fields rest, ofBytes (toBytes fields ++ rest) = fields)
    (hwritten : ∀ bs, size ≤ bs.length → toBytes (ofBytes bs) = bs.take size)
    (hinTurn : ∀ bs, fieldByField bs = Guarded.granted (parse bs)) :
    IsCodec record size parse fieldByField toBytes := by
  have hparse (bs : Bytes) (h : size ≤ bs.length) : parse bs = .ok (ofBytes bs) := by
    rw [hplaces, (require_eq_ok_iff record size bs).2 h]
    rfl
  constructor
  case length => exact hlength
  case parse_toBytes =>
    intro fields rest
    have henough : size ≤ (toBytes fields ++ rest).length := by
      rw [List.length_append, hlength]
      omega
    rw [hparse _ henough, hread]
  case toBytes_parse =>
    intro bs h
    exact ⟨ofBytes bs, hparse bs h, hwritten bs h⟩
  case parse_short =>
    intro bs h
    rw [hplaces, require_eq_error record size bs h]
    rfl
  case inTurn => exact hinTurn

theorem FrameHeader.toBytes_ofBytes (bs : Bytes) (h : size ≤ bs.length) :
    (ofBytes bs).toBytes = bs.take size := by
  unfold size at h
  simp only [toBytes, ofBytes]
  rw [Bytes.ofWord32_word32At bs 0 (by omega), Bytes.ofWord16_word16At bs 4 (by omega),
    Bytes.ofWord16_word16At bs 6 (by omega), Bytes.ofWord32_word32At bs 8 (by omega),
    Bytes.ofWord32_word32At bs 12 (by omega)]
  simp only [Bytes.slice_append_slice bs 0]
  rfl

theorem ConnectorHeader.toBytes_ofBytes (bs : Bytes) (h : size ≤ bs.length) :
    (ofBytes bs).toBytes = bs.take size := by
  unfold size at h
  simp only [toBytes, ofBytes]
  rw [Bytes.ofWord32_word32At bs 0 (by omega), Bytes.ofWord32_word32At bs 4 (by omega),
    Bytes.ofWord32_word32At bs 8 (by omega), Bytes.ofWord32_word32At bs 12 (by omega),
    Bytes.ofWord16_word16At bs 16 (by omega), Bytes.ofWord16_word16At bs 18 (by omega)]
  simp only [Bytes.slice_append_slice bs 0]
  rfl

theorem EventHeader.toBytes_ofBytes (bs : Bytes) (h : size ≤ bs.length) :
    (ofBytes bs).toBytes = bs.take size := by
  unfold size at h
  simp only [toBytes, ofBytes]
  rw [Bytes.ofWord32_word32At bs 0 (by omega), Bytes.ofWord32_word32At bs 4 (by omega),
    Bytes.ofWord64_word64At bs 8 (by omega)]
  simp only [Bytes.slice_append_slice bs 0]
  rfl

theorem IdentityRecord.toBytes_ofBytes (bs : Bytes) (h : size ≤ bs.length) :
    (ofBytes bs).toBytes = bs.take size := by
  unfold size at h
  simp only [toBytes, ofBytes, UInt32.toUInt32_toInt32]
  rw [Bytes.ofWord32_word32At bs 0 (by omega), Bytes.ofWord32_word32At bs 4 (by omega),
    Bytes.ofWord32_word32At bs 8 (by omega), Bytes.ofWord32_word32At bs 12 (by omega)]
  simp only [Bytes.slice_append_slice bs 0]
  rfl

theorem FrameHeader.isCodec :
    IsCodec .frameHeader size parse Guarded.frameHeader toBytes :=
  isCodec_of_places (fun _ ↦ rfl) length_toBytes ofBytes_toBytes_append toBytes_ofBytes
    Guarded.frameHeader_eq_granted

theorem ConnectorHeader.isCodec :
    IsCodec .connectorHeader size parse Guarded.connectorHeader toBytes :=
  isCodec_of_places (fun _ ↦ rfl) length_toBytes ofBytes_toBytes_append toBytes_ofBytes
    Guarded.connectorHeader_eq_granted

theorem EventHeader.isCodec :
    IsCodec .eventHeader size parse Guarded.eventHeader toBytes :=
  isCodec_of_places (fun _ ↦ rfl) length_toBytes ofBytes_toBytes_append toBytes_ofBytes
    Guarded.eventHeader_eq_granted

theorem IdentityRecord.isCodec :
    IsCodec .identityRecord size parse Guarded.identityRecord toBytes :=
  isCodec_of_places (fun _ ↦ rfl) length_toBytes ofBytes_toBytes_append toBytes_ofBytes
    Guarded.identityRecord_eq_granted

/-! ## Frames -/

theorem align_isLeast (length : Nat) : IsLeast {n | 4 ∣ n ∧ length ≤ n} (align length) := by
  refine ⟨⟨Nat.dvd_mul_left 4 _, Decoder.align_ge length⟩, ?_⟩
  rintro n ⟨⟨quarter, rfl⟩, hn⟩
  unfold align
  omega

/-- Clearing two bits is rounding up once three has been added. -/
theorem toNat_align_mask (length : Nat) (h : length + 3 < 2 ^ 64) :
    (UInt64.ofNat (length + 3) &&& ~~~3).toNat = align length := by
  rw [toNat_and_not_three, UInt64.toNat_ofNat_of_lt' h]
  rfl

theorem length_connectorFrame (kind : UInt16) (port : UInt32) (data : Bytes) :
    (connectorFrame kind port data).length = align (36 + data.length) := by
  have halign := Decoder.align_ge (36 + data.length)
  have hheaders : FrameHeader.size + ConnectorHeader.size = 36 := rfl
  simp only [connectorFrame, List.length_append, FrameHeader.length_toBytes,
    ConnectorHeader.length_toBytes, List.length_replicate, hheaders]
  omega

/-- The frame holds the data behind two headers that declare its length, and is filled up with
zeros. -/
structure IsFrameOf (kind : UInt16) (port : UInt32) (data frame : Bytes) : Prop where
  length : IsLeast {n | 4 ∣ n ∧ 36 + data.length ≤ n} frame.length
  mask : frame.length = (UInt64.ofNat (36 + data.length + 3) &&& ~~~3).toNat
  header : ∃ header : FrameHeader, FrameHeader.parse frame = .ok header ∧
    header.length.toNat = 36 + data.length ∧ header.kind = kind ∧ header.port = port ∧
    header.flags = 0 ∧ header.sequence = 0
  connector : ∃ header : ConnectorHeader, ConnectorHeader.parse (frame.drop 16) = .ok header ∧
    header.index = 1 ∧ header.value = 1 ∧ header.length.toNat = min data.length 65535 ∧
    header.sequence = 0 ∧ header.acknowledgement = 0 ∧ header.flags = 0
  content : frame.slice 36 data.length = data
  padding : ∀ b ∈ frame.drop (36 + data.length), b = 0

theorem isFrameOf_connectorFrame (kind : UInt16) (port : UInt32) (data : Bytes)
    (h : data.length < 2 ^ 32 - 36) : IsFrameOf kind port data (connectorFrame kind port data) := by
  let header : FrameHeader := ⟨UInt32.ofNat (36 + data.length), kind, 0, 0, port⟩
  let connector := ConnectorHeader.ofProcess (UInt16.ofNat (min data.length 65535))
  let padding : Bytes := List.replicate (align (36 + data.length) - (36 + data.length)) 0
  have hframe : connectorFrame kind port data =
      header.toBytes ++ (connector.toBytes ++ (data ++ padding)) := by
    simp only [connectorFrame, List.append_assoc]
    rfl
  have hinner : (connectorFrame kind port data).drop 16 =
      connector.toBytes ++ (data ++ padding) := by
    rw [hframe]
    exact List.drop_left' header.length_toBytes
  have hdata : (connectorFrame kind port data).drop 36 = data ++ padding := by
    have hdrop : (connectorFrame kind port data).drop 36 =
        ((connectorFrame kind port data).drop 16).drop 20 := by
      rw [List.drop_drop]
    rw [hdrop, hinner]
    exact List.drop_left' connector.length_toBytes
  have hlength := length_connectorFrame kind port data
  have houter : header.length.toNat = 36 + data.length := by
    rw [UInt32.toNat_ofNat']
    omega
  have hdeclared : connector.length.toNat = min data.length 65535 := by
    simp only [connector, ConnectorHeader.ofProcess]
    rw [UInt16.toNat_ofNat']
    omega
  constructor
  case length =>
    rw [hlength]
    exact align_isLeast _
  case mask => rw [hlength, toNat_align_mask _ (by omega)]
  case header =>
    refine ⟨header, ?_, houter, rfl, rfl, rfl, rfl⟩
    rw [hframe]
    exact FrameHeader.isCodec.parse_toBytes header _
  case connector =>
    refine ⟨connector, ?_, rfl, rfl, hdeclared, rfl, rfl, rfl⟩
    rw [hinner]
    exact ConnectorHeader.isCodec.parse_toBytes connector _
  case content => rw [Bytes.slice, hdata, List.take_left]
  case padding =>
    intro b hb
    rw [← List.drop_drop, hdata, List.drop_left] at hb
    exact List.eq_of_mem_replicate hb

/-- Every record is read and written without loss, and every connector frame is laid out around its
data, whatever these are and however many. -/
theorem lossless_records_and_frames :
    IsCodec .frameHeader 16 FrameHeader.parse Guarded.frameHeader FrameHeader.toBytes ∧
      IsCodec .connectorHeader 20 ConnectorHeader.parse Guarded.connectorHeader
        ConnectorHeader.toBytes ∧
      IsCodec .eventHeader 16 EventHeader.parse Guarded.eventHeader EventHeader.toBytes ∧
      IsCodec .identityRecord 16 IdentityRecord.parse Guarded.identityRecord
        IdentityRecord.toBytes ∧
      ∀ (kind : UInt16) (port : UInt32) (data : Bytes), data.length < 2 ^ 32 - 36 →
        IsFrameOf kind port data (connectorFrame kind port data) :=
  ⟨FrameHeader.isCodec, ConnectorHeader.isCodec, EventHeader.isCodec, IdentityRecord.isCodec,
    isFrameOf_connectorFrame⟩

/-- Five bytes of data take three zeros, and a cut header is refused. -/
theorem lossless_records_and_frames_of_five_bytes :
    let data : Bytes := [1, 2, 3, 4, 5]
    let cut : Bytes := [44, 0, 0, 0, 16, 0, 0, 0, 0, 0]
    data.length < 2 ^ 32 - 36 ∧ IsFrameOf 16 4242 data (connectorFrame 16 4242 data) ∧
      (connectorFrame 16 4242 data).drop 36 = [1, 2, 3, 4, 5, 0, 0, 0] ∧
      FrameHeader.parse cut = .error (.truncated .frameHeader 16 10) := by
  intro data cut
  obtain ⟨hheader, -, -, -, hframe⟩ := lossless_records_and_frames
  exact ⟨by decide, hframe 16 4242 data (by decide), by decide, hheader.parse_short cut (by decide)⟩

end Netlink

end Regroup
