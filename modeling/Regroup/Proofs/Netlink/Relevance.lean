import Regroup.Proofs.Netlink.Calls

/-!
# The bytes that matter

Of a frame the decoder looks at the length and the kind, and where the payload counts at five fields
more, as far as their records lie within the frame. Batches that agree in these fields of the frames
that are come to are walked alike, so replacing any other byte changes nothing of what a decoder
answers and counts. Which bytes of a frame are looked at is settled by that frame alone.
-/

namespace Regroup

namespace Bytes

theorem slice_congr (as bs : Bytes) (start length : Nat)
    (h : ∀ place, start ≤ place → place < start + length → as[place]? = bs[place]?) :
    as.slice start length = bs.slice start length := by
  refine List.ext_getElem? fun place ↦ ?_
  simp only [slice, List.getElem?_take, List.getElem?_drop]
  split
  · exact h _ (by omega) (by omega)
  · rfl

end Bytes

namespace Netlink

/-- The fields that a decoder looks at: of the frame header the length and the kind, of the
connector header the index, the value and the length of the data, the code of the event header, and
all of the identity record. -/
inductive Field where
  | length
  | kind
  | index
  | value
  | dataLength
  | what
  | identity
deriving DecidableEq

namespace Field

def all : List Field := [length, kind, index, value, dataLength, what, identity]

theorem mem_all (field : Field) : field ∈ all := by
  cases field <;> decide

def offset : Field → Nat
  | length => 0
  | kind => 4
  | index => 16
  | value => 20
  | dataLength => 32
  | what => 36
  | identity => 52

def size : Field → Nat
  | kind | dataLength => 2
  | length | index | value | what => 4
  | identity => 16

/-- Where the record that the field belongs to ends. -/
def recordEnd : Field → Nat
  | length | kind => 16
  | index | value | dataLength => 36
  | what => 52
  | identity => 68

/-- The field holds the byte that lies so far behind the start of the frame. -/
def Covers (field : Field) (skipped : Nat) : Prop :=
  field.offset ≤ skipped ∧ skipped < field.offset + field.size

instance (field : Field) : DecidablePred field.Covers := fun skipped ↦
  inferInstanceAs (Decidable (field.offset ≤ skipped ∧ skipped < field.offset + field.size))

theorem end_le_recordEnd (field : Field) : field.offset + field.size ≤ field.recordEnd := by
  cases field <;> decide

/-- The frame at an offset has the field. A header has to be complete. The records behind it count
in a complete frame that is neither a no-op nor a marker, and have to lie within that. -/
def IsIn (field : Field) (bytes : Bytes) (start : Nat) : Prop :=
  start + 16 ≤ bytes.length ∧
    (field.recordEnd ≤ 16 ∨
      bytes.word16At (start + 4) ∉ [noopKind, errorKind, overrunKind] ∧
        field.recordEnd ≤ (bytes.word32At start).toNat ∧
        start + (bytes.word32At start).toNat ≤ bytes.length)

instance (field : Field) (bytes : Bytes) : DecidablePred (field.IsIn bytes) := fun start ↦
  inferInstanceAs (Decidable (start + 16 ≤ bytes.length ∧ (field.recordEnd ≤ 16 ∨
    bytes.word16At (start + 4) ∉ [noopKind, errorKind, overrunKind] ∧
      field.recordEnd ≤ (bytes.word32At start).toNat ∧
      start + (bytes.word32At start).toNat ≤ bytes.length)))

end Field

/-- The place is in a field of a frame that the walk through the batch comes to. -/
def IsRead (bytes : Bytes) (place : Nat) : Prop :=
  ∃ start ∈ (walkFrom bytes 0).offsets, ∃ field : Field, field.IsIn bytes start ∧
    start ≤ place ∧ field.Covers (place - start)

instance (bytes : Bytes) : DecidablePred (IsRead bytes) := fun place ↦
  decidable_of_iff (∃ start ∈ (walkFrom bytes 0).offsets, ∃ field ∈ Field.all,
    field.IsIn bytes start ∧ start ≤ place ∧ field.Covers (place - start))
    (by simp only [IsRead, Field.mem_all, true_and])

/-! ## Batches that agree -/

/-- The batches are equally long and hold the same bytes in all fields of the frame at an offset. -/
structure AgreeAt (bytes other : Bytes) (start : Nat) : Prop where
  length : other.length = bytes.length
  fields : ∀ field : Field, field.IsIn bytes start → ∀ skipped, field.Covers skipped →
    other[start + skipped]? = bytes[start + skipped]?

namespace AgreeAt

variable {bytes other : Bytes} {start : Nat} (h : AgreeAt bytes other start)

include h

theorem slice_eq (field : Field) (hin : field.IsIn bytes start) (skipped width : Nat)
    (hstart : field.offset ≤ skipped) (hend : skipped + width ≤ field.offset + field.size) :
    other.slice (start + skipped) width = bytes.slice (start + skipped) width := by
  refine Bytes.slice_congr _ _ _ _ fun place hfirst hlast ↦ ?_
  have hplace := h.fields field hin (place - start) ⟨by omega, by omega⟩
  rwa [Nat.add_sub_cancel' (by omega)] at hplace

theorem word16At_eq (field : Field) (hin : field.IsIn bytes start) (skipped : Nat)
    (hstart : field.offset ≤ skipped) (hend : skipped + 2 ≤ field.offset + field.size) :
    other.word16At (start + skipped) = bytes.word16At (start + skipped) := by
  rw [Bytes.word16At, h.slice_eq field hin skipped 2 hstart hend, Bytes.word16At]

theorem word32At_eq (field : Field) (hin : field.IsIn bytes start) (skipped : Nat)
    (hstart : field.offset ≤ skipped) (hend : skipped + 4 ≤ field.offset + field.size) :
    other.word32At (start + skipped) = bytes.word32At (start + skipped) := by
  rw [Bytes.word32At, h.slice_eq field hin skipped 4 hstart hend, Bytes.word32At]

/-- In a complete frame of events the payload holds the same. -/
theorem payloadAt?_eq (hlength : other.word32At start = bytes.word32At start)
    (hkind : bytes.word16At (start + 4) ∉ [noopKind, errorKind, overrunKind])
    (hsize : 16 ≤ (bytes.word32At start).toNat)
    (hcomplete : start + (bytes.word32At start).toNat ≤ bytes.length) :
    payloadAt? other start = payloadAt? bytes start := by
  have hin (field : Field) (hrecord : field.recordEnd ≤ (bytes.word32At start).toNat) :
      field.IsIn bytes start := ⟨by omega, .inr ⟨hkind, hrecord, hcomplete⟩⟩
  unfold payloadAt?
  dsimp only
  rw [hlength]
  by_cases hheader : (bytes.word32At start).toNat - 16 < 20
  · rw [if_pos hheader, if_pos hheader]
  have hconnector : 36 ≤ (bytes.word32At start).toNat := by omega
  rw [if_neg hheader, if_neg hheader,
    h.word32At_eq .index (hin _ hconnector) 16 (Nat.le_refl _) (Nat.le_refl _),
    h.word32At_eq .value (hin _ hconnector) 20 (Nat.le_refl _) (Nat.le_refl _),
    h.word16At_eq .dataLength (hin _ hconnector) 32 (Nat.le_refl _) (Nat.le_refl _)]
  split
  · rfl
  by_cases hdata : (bytes.word32At start).toNat - 36 < (bytes.word16At (start + 32)).toNat ∨
      (bytes.word16At (start + 32)).toNat < 16
  · rw [if_pos hdata, if_pos hdata]
  have hevent : 52 ≤ (bytes.word32At start).toNat := by omega
  rw [if_neg hdata, if_neg hdata,
    h.word32At_eq .what (hin _ hevent) 36 (Nat.le_refl _) (Nat.le_refl _)]
  cases kindOf? (bytes.word32At (start + 36)) with
  | none => rfl
  | some kind =>
    dsimp only
    by_cases hrecord : (bytes.word16At (start + 32)).toNat < 32
    · rw [if_pos hrecord, if_pos hrecord]
    have hidentity : 68 ≤ (bytes.word32At start).toNat := by omega
    rw [if_neg hrecord, if_neg hrecord,
      h.word32At_eq .identity (hin _ hidentity) 52 (by decide) (by decide),
      h.word32At_eq .identity (hin _ hidentity) 56 (by decide) (by decide),
      h.word32At_eq .identity (hin _ hidentity) 60 (by decide) (by decide),
      h.word32At_eq .identity (hin _ hidentity) 64 (by decide) (by decide)]

theorem landingAt_eq : landingAt other start = landingAt bytes start := by
  unfold landingAt
  dsimp only
  rw [h.length]
  by_cases hend : bytes.length ≤ start
  · rw [if_pos hend, if_pos hend]
  by_cases hheader : bytes.length < start + 16
  · rw [if_neg hend, if_pos hheader, if_neg hend, if_pos hheader]
  have hin (field : Field) (hrecord : field.recordEnd ≤ 16) : field.IsIn bytes start :=
    ⟨Nat.not_lt.1 hheader, .inl hrecord⟩
  have hlength : other.word32At start = bytes.word32At start :=
    h.word32At_eq .length (hin _ (Nat.le_refl _)) 0 (Nat.le_refl _) (Nat.le_refl _)
  have hkind : other.word16At (start + 4) = bytes.word16At (start + 4) :=
    h.word16At_eq .kind (hin _ (Nat.le_refl _)) 4 (Nat.le_refl _) (Nat.le_refl _)
  rw [if_neg hend, if_neg hheader, if_neg hend, if_neg hheader, hlength, hkind]
  split
  · rfl
  split
  · rfl
  split
  · rfl
  split
  · rfl
  split
  · rfl
  rename_i hshort hlong hnoop herror hoverrun
  have hplain : bytes.word16At (start + 4) ∉ [noopKind, errorKind, overrunKind] := by
    simp [hnoop, herror, hoverrun]
  rw [h.payloadAt?_eq hlength hplain (by omega) (by omega)]

end AgreeAt

/-- Batches that agree wherever the walk through one of them comes to are walked alike. -/
theorem walkFrom_congr (bytes other : Bytes) (start : Nat)
    (h : ∀ offset ∈ (walkFrom bytes start).offsets, AgreeAt bytes other offset) :
    walkFrom other start = walkFrom bytes start := by
  fun_induction walkFrom bytes start with
  | case1 start stop hlanding =>
    have hagree : AgreeAt bytes other start := h start (List.mem_singleton_self _)
    exact walkFrom_of_ends (hagree.landingAt_eq.trans hlanding)
  | case2 start visit hlanding =>
    have hagree : AgreeAt bytes other start := h start (by simp [Walk.offsets, Walk.ending])
    exact walkFrom_of_finishes (hagree.landingAt_eq.trans hlanding)
  | case3 start visit hlanding ih =>
    have hstart := (isIn_of_landingAt bytes start visit (by rw [hlanding]; rfl)).1
    have hagree : AgreeAt bytes other start := h start (by simp [Walk.offsets, hstart])
    rw [walkFrom_of_passes (hagree.landingAt_eq.trans hlanding),
      ih fun offset hoffset ↦ h offset (List.mem_cons_of_mem _ hoffset)]

theorem length_of_landingAt (bytes : Bytes) (start : Nat) (visit : Visit)
    (h : (landingAt bytes start).visit? = some visit) :
    visit.length = (bytes.word32At start).toNat := by
  unfold landingAt at h
  dsimp only at h
  split at h
  · cases h
  split at h
  · cases h
  split at h
  · cases h
  split at h
  · cases h
  split at h
  · obtain rfl := Option.some.inj h
    rfl
  split at h
  · cases h
  split at h
  · cases h
  split at h
  · cases h
  split at h
  · obtain rfl := Option.some.inj h
    rfl
  · obtain rfl := Option.some.inj h
    rfl

theorem le_of_mem_offsets (bytes : Bytes) (start offset : Nat)
    (h : offset ∈ (walkFrom bytes start).offsets) : start ≤ offset := by
  fun_induction walkFrom bytes start with
  | case1 start stop hlanding => exact Nat.le_of_eq (List.mem_singleton.1 h).symm
  | case2 start visit hlanding =>
    have hstart := (isIn_of_landingAt bytes start visit (by rw [hlanding]; rfl)).1
    rcases List.mem_cons.1 h with rfl | hlast
    · exact Nat.le_of_eq hstart.symm
    · exact Nat.le_of_eq (List.mem_singleton.1 hlast).symm
  | case3 start visit hlanding ih =>
    have hstart := (isIn_of_landingAt bytes start visit (by rw [hlanding]; rfl)).1
    rcases List.mem_cons.1 h with rfl | hlater
    · exact Nat.le_of_eq hstart.symm
    · exact Nat.le_trans (Nat.le_add_right _ _) (ih hlater)

/-- A frame that another one lies behind is complete, and its padding ends before the other one. -/
theorem behind_of_mem_offsets (bytes : Bytes) (start frame later : Nat)
    (hframe : frame ∈ (walkFrom bytes start).offsets)
    (hlater : later ∈ (walkFrom bytes start).offsets) (hlt : frame < later) :
    16 ≤ (bytes.word32At frame).toNat ∧ frame + align (bytes.word32At frame).toNat ≤ later := by
  fun_induction walkFrom bytes start with
  | case1 start stop hlanding =>
    have hfirst : frame = start := List.mem_singleton.1 hframe
    have hlast : later = start := List.mem_singleton.1 hlater
    omega
  | case2 start visit hlanding =>
    have hstart := (isIn_of_landingAt bytes start visit (by rw [hlanding]; rfl)).1
    have honly : ∀ offset ∈ ((Walk.ending start .final).after visit).offsets, offset = start := by
      simp [Walk.offsets, Walk.ending, hstart]
    rw [honly frame hframe, honly later hlater] at hlt
    exact absurd hlt (Nat.lt_irrefl start)
  | case3 start visit hlanding ih =>
    obtain ⟨hstart, hin⟩ := isIn_of_landingAt bytes start visit (by rw [hlanding]; rfl)
    have hlength := length_of_landingAt bytes start visit (by rw [hlanding]; rfl)
    rcases List.mem_cons.1 hframe with rfl | hframe
    · rcases List.mem_cons.1 hlater with rfl | hlater
      · exact absurd hlt (Nat.lt_irrefl _)
      · have hbehind := le_of_mem_offsets bytes _ later hlater
        rw [hstart, ← hlength]
        exact ⟨hin.size_le, hbehind⟩
    · rcases List.mem_cons.1 hlater with rfl | hlater
      · have hbehind := le_of_mem_offsets bytes _ frame hframe
        omega
      · exact ih hframe hlater

theorem le_last_of_mem_offsets (bytes : Bytes) (start offset : Nat)
    (h : offset ∈ (walkFrom bytes start).offsets) : offset ≤ (walkFrom bytes start).last := by
  fun_induction walkFrom bytes start with
  | case1 start stop hlanding => exact Nat.le_of_eq (List.mem_singleton.1 h)
  | case2 start visit hlanding =>
    have hstart := (isIn_of_landingAt bytes start visit (by rw [hlanding]; rfl)).1
    rcases List.mem_cons.1 h with rfl | hlast
    · exact Nat.le_of_eq hstart
    · exact Nat.le_of_eq (List.mem_singleton.1 hlast)
  | case3 start visit hlanding ih =>
    have hstart := (isIn_of_landingAt bytes start visit (by rw [hlanding]; rfl)).1
    rcases List.mem_cons.1 h with rfl | hlater
    · have hlast := le_of_mem_offsets bytes (start + align visit.length) _
        (List.mem_append_right _ (List.mem_singleton_self _))
      rw [hstart]
      exact Nat.le_trans (Nat.le_add_right _ _) hlast
    · exact ih hlater

/-- A field lies within its frame. -/
theorem Field.IsIn.end_le {field : Field} {bytes : Bytes} {start : Nat}
    (h : field.IsIn bytes start) (hsize : 16 ≤ (bytes.word32At start).toNat) :
    field.offset + field.size ≤ (bytes.word32At start).toNat := by
  have hrecord := field.end_le_recordEnd
  rcases h.2 with hheader | ⟨-, hwithin, -⟩ <;> omega

/-- A byte of a frame or of its padding, or any byte from the last frame on, is only looked at as
part of that frame. -/
theorem isRead_iff (bytes : Bytes) (start skipped : Nat)
    (hstart : start ∈ (walkFrom bytes 0).offsets)
    (hwithin : start = (walkFrom bytes 0).last ∨
      skipped < align (bytes.word32At start).toNat) :
    IsRead bytes (start + skipped) ↔
      ∃ field : Field, field.IsIn bytes start ∧ field.Covers skipped := by
  constructor
  · rintro ⟨other, hother, field, hin, hle, hcovers⟩
    rcases Nat.lt_trichotomy other start with hbefore | rfl | hbehind
    · obtain ⟨hsize, hpadded⟩ := behind_of_mem_offsets bytes 0 other start hother hstart hbefore
      have hend := hin.end_le hsize
      have hge := Decoder.align_ge (bytes.word32At other).toNat
      have hplace := hcovers.2
      omega
    · rw [Nat.add_sub_cancel_left] at hcovers
      exact ⟨field, hin, hcovers⟩
    · obtain ⟨-, hpadded⟩ := behind_of_mem_offsets bytes 0 start other hstart hother hbehind
      have hlast := le_last_of_mem_offsets bytes 0 other hother
      omega
  · rintro ⟨field, hin, hcovers⟩
    refine ⟨start, hstart, field, hin, Nat.le_add_right _ _, ?_⟩
    rwa [Nat.add_sub_cancel_left]

/-! ## Replacing a byte -/

theorem walkFrom_set (bytes : Bytes) (place : Nat) (value : UInt8) (h : ¬ IsRead bytes place) :
    walkFrom (bytes.set place value) 0 = walkFrom bytes 0 := by
  refine walkFrom_congr bytes _ 0 fun start hstart ↦ ⟨List.length_set, ?_⟩
  intro field hin skipped hcovers
  refine List.getElem?_set_ne fun hplace ↦ h ?_
  refine ⟨start, hstart, field, hin, by omega, ?_⟩
  rwa [hplace, Nat.add_sub_cancel_left]

/-- Replacing a byte that is in no field of a frame come to changes nothing of what any number of
calls answer and count. A byte of a frame or its padding is looked at only in a field of that frame,
and from the last frame on there are no fields but those of the last frame. -/
theorem answers_set_of_not_isRead (bytes : Bytes) :
    let walk := walkFrom bytes 0
    (∀ place, ¬ IsRead bytes place → ∀ value calls,
      let d := Decoder.ofBatch bytes
      let other := Decoder.ofBatch (bytes.set place value)
      other.answers calls = d.answers calls ∧
        (other.afterCalls calls).stats = (d.afterCalls calls).stats ∧
        (other.afterCalls calls).interruption = (d.afterCalls calls).interruption) ∧
      ∀ start ∈ walk.offsets, ∀ skipped,
        start = walk.last ∨ skipped < align (bytes.word32At start).toNat →
          (IsRead bytes (start + skipped) ↔
            ∃ field : Field, field.IsIn bytes start ∧ field.Covers skipped) := by
  intro walk
  refine ⟨fun place hplace value calls ↦ ?_, fun start hstart skipped hwithin ↦
    isRead_iff bytes start skipped hstart hwithin⟩
  have hwalk := walkFrom_set bytes place value hplace
  refine ⟨?_, ?_, ?_⟩
  · rw [Decoder.answers_ofBatch, Decoder.answers_ofBatch, hwalk]
  · rw [Decoder.stats_afterCalls, Decoder.stats_afterCalls, hwalk]
  · rw [Decoder.interruption_afterCalls, Decoder.interruption_afterCalls, hwalk]

/-- The timestamp of an event frame and what stands behind a final frame can be anything, while the
effective user matters. -/
theorem answers_set_timestamp :
    let bytes := identityFrame 16 userChanged ⟨5, 5, 1, 2⟩ ++ groupFrame 6 3 4 ++ [1, 2, 3]
    ¬ IsRead bytes 45 ∧ ¬ IsRead bytes 137 ∧ IsRead bytes 64 ∧
      (Decoder.ofBatch (bytes.set 45 9)).answers 3 =
        [some ⟨5, 5, .user, 1, 2⟩, some ⟨6, 6, .group, 3, 4⟩, none] ∧
      ((Decoder.ofBatch (bytes.set 137 9)).afterCalls 3).stats = ⟨2, 0, 2, 0, 0⟩ := by
  intro bytes
  have htimestamp : ¬ IsRead bytes 45 := by decide +kernel
  have hbehind : ¬ IsRead bytes 137 := by decide +kernel
  obtain ⟨hreplaced, hfields⟩ := answers_set_of_not_isRead bytes
  have heffective : IsRead bytes (0 + 64) :=
    (hfields 0 (by decide +kernel) 64 (.inr (by decide +kernel))).2 ⟨.identity, by decide +kernel⟩
  exact ⟨htimestamp, hbehind, heffective,
    (hreplaced 45 htimestamp 9 3).1.trans (by decide +kernel),
    (hreplaced 137 hbehind 9 3).2.1.trans (by decide +kernel)⟩

end Netlink

end Regroup
