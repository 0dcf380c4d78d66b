import Mathlib.Algebra.Group.Nat.Defs
import Regroup.Netlink.Batch
import Regroup.Proofs.Netlink.Record

/-!
# Guarded reads

On a machine a range that leaves the bytes it is cut from breaks a program off, and so does a sum
that does not fit into a word. Guarded operations are refused in these cases, and what is refused
once stays refused. A guarded reader goes through a record field by field and has to find every
field within it.

No record is ever refused: once its size has been checked, all of its fields are there. So reading
the payload of a frame with guards comes to what reading it without them comes to, whatever lengths
it declares.
-/

namespace Regroup

/-- The sum of two words, refused where it does not fit. -/
def addWord? (a b : UInt64) : Option UInt64 :=
  if a.toNat + b.toNat < 2 ^ 64 then some (a + b) else none

/-- The difference of two words, refused where it is negative. -/
def subWord? (a b : UInt64) : Option UInt64 :=
  if b.toNat ≤ a.toNat then some (a - b) else none

theorem addWord?_eq_some (a b : UInt64) (h : a.toNat + b.toNat < 2 ^ 64) :
    ∃ sum, addWord? a b = some sum ∧ sum.toNat = a.toNat + b.toNat := by
  refine ⟨a + b, if_pos h, ?_⟩
  rw [UInt64.toNat_add, Nat.mod_eq_of_lt h]

theorem subWord?_eq_some (a b : UInt64) (h : b.toNat ≤ a.toNat) :
    ∃ difference, subWord? a b = some difference ∧ difference.toNat = a.toNat - b.toNat := by
  refine ⟨a - b, if_pos h, ?_⟩
  exact UInt64.toNat_sub_of_le a b (UInt64.le_iff_toNat_le.2 h)

/-- Clearing the two lowest bits goes down to a multiple of four. -/
theorem toNat_and_not_three (w : UInt64) : (w &&& ~~~3).toNat = w.toNat / 4 * 4 := by
  have hmask : (~~~3 : UInt64).toNat = (2 ^ 62 - 1) <<< 2 := by decide
  have hmultiple : w.toNat / 4 * 4 = (w.toNat >>> 2) <<< 2 := by
    rw [Nat.shiftRight_eq_div_pow, Nat.shiftLeft_eq]
  rw [UInt64.toNat_and, hmask, hmultiple]
  apply Nat.eq_of_testBit_eq
  intro place
  rw [Nat.testBit_and, Nat.testBit_shiftLeft, Nat.testBit_shiftLeft, Nat.testBit_two_pow_sub_one,
    Nat.testBit_shiftRight]
  by_cases hlow : 2 ≤ place
  · by_cases hhigh : place < 64
    · have hwithin : place - 2 < 62 := by omega
      simp [hlow, hwithin]
    · have hbeyond : w.toNat < 2 ^ place :=
        Nat.lt_of_lt_of_le w.toNat_lt (Nat.pow_le_pow_right (by decide) (by omega))
      simp [hlow, Nat.testBit_lt_two_pow hbeyond]
  · simp [hlow]

namespace Bytes

/-- The bytes between two places, refused unless both lie within and in this order. -/
def range? (bs : Bytes) (start stop : UInt64) : Option Bytes :=
  if start.toNat ≤ stop.toNat ∧ stop.toNat ≤ bs.length then
    some (bs.slice start.toNat (stop.toNat - start.toNat))
  else none

/-- The bytes from a place on, refused where it lies behind the end. -/
def from? (bs : Bytes) (start : UInt64) : Option Bytes :=
  if start.toNat ≤ bs.length then some (bs.drop start.toNat) else none

theorem range?_eq_some (bs : Bytes) (start stop : UInt64) (hstart : start.toNat ≤ stop.toNat)
    (hstop : stop.toNat ≤ bs.length) :
    bs.range? start stop = some (bs.slice start.toNat (stop.toNat - start.toNat)) :=
  if_pos ⟨hstart, hstop⟩

theorem from?_eq_some (bs : Bytes) (start : UInt64) (h : start.toNat ≤ bs.length) :
    bs.from? start = some (bs.drop start.toNat) :=
  if_pos h

end Bytes

namespace Netlink

open Credential (Event)

/-! ## Cursors -/

/-- A place in the bytes that a record is read from. -/
structure Cursor where
  bytes : Bytes
  position : UInt64

/-- Reading with a cursor, which may be refused. -/
abbrev Reading := StateT Cursor Option

namespace Cursor

def take (width : Nat) : Reading Bytes := fun cursor ↦ do
  let stop ← addWord? cursor.position (UInt64.ofNat width)
  let field ← cursor.bytes.range? cursor.position stop
  return (field, { cursor with position := stop })

def word16 : Reading UInt16 :=
  (fun field ↦ UInt16.ofNat (Bytes.toNat field)) <$> take 2

def word32 : Reading UInt32 :=
  (fun field ↦ UInt32.ofNat (Bytes.toNat field)) <$> take 4

def word64 : Reading UInt64 :=
  (fun field ↦ UInt64.ofNat (Bytes.toNat field)) <$> take 8

def frameHeader : Reading FrameHeader := do
  return ⟨← word32, ← word16, ← word16, ← word32, ← word32⟩

def connectorHeader : Reading ConnectorHeader := do
  return ⟨← word32, ← word32, ← word32, ← word32, ← word16, ← word16⟩

def eventHeader : Reading EventHeader := do
  return ⟨← word32, ← word32, ← word64⟩

def identityRecord : Reading IdentityRecord := do
  return ⟨(← word32).toInt32, (← word32).toInt32, ← word32, ← word32⟩

/-- The cursor at a place of the bytes. -/
def atPlace (bs : Bytes) (place : Nat) : Cursor :=
  ⟨bs, UInt64.ofNat place⟩

/-- Within the bytes a field is read from the place that the cursor has come to. -/
theorem take_eq_some (bs : Bytes) (place width : Nat) (hin : place + width ≤ bs.length)
    (hword : place + width < 2 ^ 64) :
    take width (atPlace bs place) =
      some (bs.slice place width, atPlace bs (place + width)) := by
  have hplace : (UInt64.ofNat place).toNat = place :=
    UInt64.toNat_ofNat_of_lt' (Nat.lt_of_le_of_lt (Nat.le_add_right place width) hword)
  have hwidth : (UInt64.ofNat width).toNat = width :=
    UInt64.toNat_ofNat_of_lt' (Nat.lt_of_le_of_lt (Nat.le_add_left width place) hword)
  have hstop : (UInt64.ofNat (place + width)).toNat = place + width :=
    UInt64.toNat_ofNat_of_lt' hword
  have hsum : addWord? (UInt64.ofNat place) (UInt64.ofNat width) =
      some (UInt64.ofNat (place + width)) := by
    rw [addWord?, hplace, hwidth, if_pos hword, UInt64.ofNat_add]
  have hfield := bs.range?_eq_some (UInt64.ofNat place) (UInt64.ofNat (place + width))
    (by omega) (by omega)
  rw [hplace, hstop, Nat.add_sub_cancel_left] at hfield
  simp only [take, atPlace, hsum, hfield, Option.bind_eq_bind, Option.bind_some, Option.pure_def]

section

variable (bs : Bytes) (place : Nat)

theorem word16_eq_some (hin : place + 2 ≤ bs.length) (hword : place < 2 ^ 32) :
    word16 (atPlace bs place) = some (bs.word16At place, atPlace bs (place + 2)) := by
  have htake := take_eq_some bs place 2 hin (by omega)
  simp only [word16, Functor.map, StateT.map, htake]
  rfl

theorem word32_eq_some (hin : place + 4 ≤ bs.length) (hword : place < 2 ^ 32) :
    word32 (atPlace bs place) = some (bs.word32At place, atPlace bs (place + 4)) := by
  have htake := take_eq_some bs place 4 hin (by omega)
  simp only [word32, Functor.map, StateT.map, htake]
  rfl

theorem word64_eq_some (hin : place + 8 ≤ bs.length) (hword : place < 2 ^ 32) :
    word64 (atPlace bs place) = some (bs.word64At place, atPlace bs (place + 8)) := by
  have htake := take_eq_some bs place 8 hin (by omega)
  simp only [word64, Functor.map, StateT.map, htake]
  rfl

theorem bind_eq {α β : Type} (reading : Reading α) (next : α → Reading β) (cursor cursor' : Cursor)
    (a : α) (h : reading cursor = some (a, cursor')) :
    (reading >>= next) cursor = next a cursor' := by
  change (reading cursor).bind _ = _
  rw [h]
  rfl

theorem frameHeader_eq_some (h : FrameHeader.size ≤ bs.length) :
    frameHeader (atPlace bs 0) = some (FrameHeader.ofBytes bs, atPlace bs 16) := by
  unfold FrameHeader.size at h
  rw [frameHeader, bind_eq _ _ _ _ _ (word32_eq_some bs 0 (by omega) (by omega)),
    bind_eq _ _ _ _ _ (word16_eq_some bs 4 (by omega) (by omega)),
    bind_eq _ _ _ _ _ (word16_eq_some bs 6 (by omega) (by omega)),
    bind_eq _ _ _ _ _ (word32_eq_some bs 8 (by omega) (by omega)),
    bind_eq _ _ _ _ _ (word32_eq_some bs 12 (by omega) (by omega))]
  rfl

theorem connectorHeader_eq_some (h : ConnectorHeader.size ≤ bs.length) :
    connectorHeader (atPlace bs 0) = some (ConnectorHeader.ofBytes bs, atPlace bs 20) := by
  unfold ConnectorHeader.size at h
  rw [connectorHeader, bind_eq _ _ _ _ _ (word32_eq_some bs 0 (by omega) (by omega)),
    bind_eq _ _ _ _ _ (word32_eq_some bs 4 (by omega) (by omega)),
    bind_eq _ _ _ _ _ (word32_eq_some bs 8 (by omega) (by omega)),
    bind_eq _ _ _ _ _ (word32_eq_some bs 12 (by omega) (by omega)),
    bind_eq _ _ _ _ _ (word16_eq_some bs 16 (by omega) (by omega)),
    bind_eq _ _ _ _ _ (word16_eq_some bs 18 (by omega) (by omega))]
  rfl

theorem eventHeader_eq_some (h : EventHeader.size ≤ bs.length) :
    eventHeader (atPlace bs 0) = some (EventHeader.ofBytes bs, atPlace bs 16) := by
  unfold EventHeader.size at h
  rw [eventHeader, bind_eq _ _ _ _ _ (word32_eq_some bs 0 (by omega) (by omega)),
    bind_eq _ _ _ _ _ (word32_eq_some bs 4 (by omega) (by omega)),
    bind_eq _ _ _ _ _ (word64_eq_some bs 8 (by omega) (by omega))]
  rfl

theorem identityRecord_eq_some (h : IdentityRecord.size ≤ bs.length) :
    identityRecord (atPlace bs 0) = some (IdentityRecord.ofBytes bs, atPlace bs 16) := by
  unfold IdentityRecord.size at h
  rw [identityRecord, bind_eq _ _ _ _ _ (word32_eq_some bs 0 (by omega) (by omega)),
    bind_eq _ _ _ _ _ (word32_eq_some bs 4 (by omega) (by omega)),
    bind_eq _ _ _ _ _ (word32_eq_some bs 8 (by omega) (by omega)),
    bind_eq _ _ _ _ _ (word32_eq_some bs 12 (by omega) (by omega))]
  rfl

end

end Cursor

/-! ## Records and payloads -/

/-- A computation that may be refused, besides the faults that it reports. -/
abbrev Guarded := ExceptT WireError Option

namespace Guarded

variable {α β : Type}

/-- A computation that is not refused. -/
def granted (x : Except WireError α) : Guarded α :=
  ExceptT.mk (some x)

/-- What goes on without being refused is not refused as a whole. -/
theorem granted_bind (x : Except WireError α) (f : α → Guarded β) (g : α → Except WireError β)
    (h : ∀ a, x = .ok a → f a = granted (g a)) : granted x >>= f = granted (x >>= g) := by
  cases x with
  | error fault => rfl
  | ok a => exact h a rfl

theorem lift_bind {x : Option α} {a : α} (h : x = some a) (f : α → Guarded β) :
    ExceptT.lift x >>= f = f a := by
  rw [h]
  rfl

/-- Reads a record after its size has been checked. -/
def record (kind : RecordKind) (size : Nat) (reading : Reading α) (bs : Bytes) : Guarded α := do
  granted (require kind size bs)
  let (fields, _) ← ExceptT.lift (reading ⟨bs, 0⟩)
  return fields

/-- A record whose fields are all within its size is never refused. -/
theorem record_eq_granted (kind : RecordKind) (size : Nat) (reading : Reading α)
    (ofBytes : Bytes → α) (bs : Bytes)
    (h : size ≤ bs.length → ∃ cursor, reading (Cursor.atPlace bs 0) = some (ofBytes bs, cursor)) :
    record kind size reading bs = granted (do
      require kind size bs
      return ofBytes bs) := by
  apply granted_bind
  intro _ hrequire
  obtain ⟨cursor, hreading⟩ := h ((require_eq_ok_iff kind size bs).1 hrequire)
  have hstart : (⟨bs, 0⟩ : Cursor) = Cursor.atPlace bs 0 := rfl
  rw [hstart, hreading]
  rfl

def frameHeader : Bytes → Guarded FrameHeader :=
  record .frameHeader FrameHeader.size Cursor.frameHeader

def connectorHeader : Bytes → Guarded ConnectorHeader :=
  record .connectorHeader ConnectorHeader.size Cursor.connectorHeader

def eventHeader : Bytes → Guarded EventHeader :=
  record .eventHeader EventHeader.size Cursor.eventHeader

def identityRecord : Bytes → Guarded IdentityRecord :=
  record .identityRecord IdentityRecord.size Cursor.identityRecord

/-- The event in the data of a connector message. -/
def eventOf (data : Bytes) : Guarded (Option Event) := do
  let header ← eventHeader data
  match kindOf? header.what with
  | none => return none
  | some kind =>
    let behind ← ExceptT.lift (data.from? 16)
    let record ← identityRecord behind
    return some ⟨record.process, record.threadGroup, kind, record.real, record.effective⟩

/-- The event in the payload of a frame. -/
def payloadEvent (payload : Bytes) : Guarded (Option Event) := do
  let header ← connectorHeader payload
  if header.isProcess then
    let data ← ExceptT.lift (payload.from? 20)
    let length := header.length.toUInt64
    granted (require .connectorData length.toNat data)
    eventOf (← ExceptT.lift (data.range? 0 length))
  else return none

section

variable (bs : Bytes)

theorem frameHeader_eq_granted : frameHeader bs = granted (FrameHeader.parse bs) :=
  record_eq_granted _ _ _ _ bs fun h ↦ ⟨_, Cursor.frameHeader_eq_some bs h⟩

theorem connectorHeader_eq_granted : connectorHeader bs = granted (ConnectorHeader.parse bs) :=
  record_eq_granted _ _ _ _ bs fun h ↦ ⟨_, Cursor.connectorHeader_eq_some bs h⟩

theorem eventHeader_eq_granted : eventHeader bs = granted (EventHeader.parse bs) :=
  record_eq_granted _ _ _ _ bs fun h ↦ ⟨_, Cursor.eventHeader_eq_some bs h⟩

theorem identityRecord_eq_granted : identityRecord bs = granted (IdentityRecord.parse bs) :=
  record_eq_granted _ _ _ _ bs fun h ↦ ⟨_, Cursor.identityRecord_eq_some bs h⟩

end

theorem length_of_bind_require {record : RecordKind} {size : Nat} {bs : Bytes}
    {f : Unit → Except WireError α} {a : α} (h : (require record size bs >>= f) = .ok a) :
    size ≤ bs.length := by
  obtain ⟨_, hrequire, -⟩ := (bind_eq_ok_iff _ _ _).1 h
  exact (require_eq_ok_iff record size bs).1 hrequire

/-- The identity record is looked for behind an event header that is there. -/
theorem eventOf_eq_granted (data : Bytes) : eventOf data = granted (eventOf? data) := by
  unfold eventOf eventOf?
  rw [eventHeader_eq_granted]
  apply granted_bind
  intro header hheader
  have hlength : 16 ≤ data.length := length_of_bind_require hheader
  cases kindOf? header.what with
  | none => rfl
  | some kind =>
    have hbehind : data.from? 16 = some (data.drop EventHeader.size) :=
      data.from?_eq_some 16 hlength
    dsimp only
    rw [lift_bind hbehind, identityRecord_eq_granted]
    apply granted_bind
    intro record _
    rfl

/-- The data are looked for behind a connector header that is there, and cut to their length once
that has been checked. -/
theorem payloadEvent_eq_granted (payload : Bytes) :
    payloadEvent payload = granted (payloadEvent? payload) := by
  unfold payloadEvent payloadEvent?
  rw [connectorHeader_eq_granted]
  apply granted_bind
  intro header hheader
  have hlength : 20 ≤ payload.length := length_of_bind_require hheader
  cases header.isProcess with
  | false => rfl
  | true =>
    have hbehind : payload.from? 20 = some (payload.drop ConnectorHeader.size) :=
      payload.from?_eq_some 20 hlength
    simp only [if_true, lift_bind hbehind, UInt16.toNat_toUInt64]
    apply granted_bind
    intro _ hrequire
    have hdata := (require_eq_ok_iff _ _ _).1 hrequire
    have hrange := Bytes.range?_eq_some (payload.drop ConnectorHeader.size) 0
      header.length.toUInt64 (Nat.zero_le _) (by rwa [UInt16.toNat_toUInt64])
    rw [lift_bind hrange, eventOf_eq_granted, UInt16.toNat_toUInt64]
    rfl

end Guarded

end Netlink

end Regroup
