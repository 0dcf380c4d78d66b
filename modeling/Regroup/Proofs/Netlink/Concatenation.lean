import Mathlib.Algebra.GroupWithZero.Nat
import Regroup.Proofs.Netlink.Offsets

/-!
# Batches one behind the other

What a walk meets at an offset is settled by the bytes of the frame there, so bytes behind a
complete frame make no difference to it, and neither do bytes before it. Two batches one behind the
other are walked in turn where the first one is used up to its last byte, and where the first one
already ends the walk by itself the second one is never looked at.
-/

namespace Regroup.Netlink

open Credential (Event)

namespace Stop

/-- Whether the walk ends whatever stands behind the batch. -/
def IsSettled : Stop → Prop
  | shortLength | shortPayload | final | interrupted _ => True
  | exhausted | shortHeader | overlong => False

end Stop

def Landing.IsSettled : Landing → Prop
  | ends stop => stop.IsSettled
  | finishes _ | passes _ => True

theorem payloadAt?_append (a b : Bytes) (start : Nat) (hsize : 16 ≤ (a.word32At start).toNat)
    (hcomplete : start + (a.word32At start).toNat ≤ a.length) :
    payloadAt? (a ++ b) start = payloadAt? a start := by
  have hlength : (a ++ b).word32At start = a.word32At start :=
    Bytes.word32At_append_left a b start (by omega)
  unfold payloadAt?
  dsimp only
  rw [hlength]
  by_cases hheader : (a.word32At start).toNat - 16 < 20
  · rw [if_pos hheader, if_pos hheader]
  rw [if_neg hheader, if_neg hheader]
  rw [Bytes.word32At_append_left a b (start + 16) (by omega),
    Bytes.word32At_append_left a b (start + 20) (by omega),
    Bytes.word16At_append_left a b (start + 32) (by omega)]
  generalize (a.word16At (start + 32)).toNat = dataLength
  by_cases hdata : (a.word32At start).toNat - 36 < dataLength ∨ dataLength < 16
  · rw [if_pos hdata, if_pos hdata]
  rw [if_neg hdata, if_neg hdata, Bytes.word32At_append_left a b (start + 36) (by omega)]
  cases kindOf? (a.word32At (start + 36)) with
  | none => rfl
  | some kind =>
    dsimp only
    by_cases hrecord : dataLength < 32
    · rw [if_pos hrecord, if_pos hrecord]
    rw [if_neg hrecord, if_neg hrecord, Bytes.word32At_append_left a b (start + 52) (by omega),
      Bytes.word32At_append_left a b (start + 56) (by omega),
      Bytes.word32At_append_left a b (start + 60) (by omega),
      Bytes.word32At_append_left a b (start + 64) (by omega)]

/-- What is met at an offset whatever stands behind the batch. -/
theorem landingAt_append (a b : Bytes) (start : Nat) (h : (landingAt a start).IsSettled) :
    landingAt (a ++ b) start = landingAt a start := by
  unfold landingAt at h ⊢
  dsimp only at h ⊢
  by_cases hend : a.length ≤ start
  · rw [if_pos hend] at h
    cases h
  by_cases hheader : a.length < start + 16
  · rw [if_neg hend, if_pos hheader] at h
    cases h
  -- the header lies in the first batch, so both sides read the same length and kind
  have hend' : ¬ a.length + b.length ≤ start := by omega
  have hheader' : ¬ a.length + b.length < start + 16 := by omega
  rw [Bytes.word32At_append_left a b start (by omega),
    Bytes.word16At_append_left a b (start + 4) (by omega), List.length_append, if_neg hend',
    if_neg hheader', if_neg hend, if_neg hheader]
  by_cases hlength : (a.word32At start).toNat < 16
  · rw [if_pos hlength, if_pos hlength]
  by_cases hlong : a.length - start < (a.word32At start).toNat
  · rw [if_neg hend, if_neg hheader, if_neg hlength, if_pos hlong] at h
    cases h
  have hlong' : ¬ a.length + b.length - start < (a.word32At start).toNat := by omega
  rw [if_neg hlength, if_neg hlong', if_neg hlength, if_neg hlong,
    payloadAt?_append a b start (by omega) (by omega)]

def Visit.shift (visit : Visit) (skipped : Nat) : Visit :=
  { visit with start := skipped + visit.start }

def Landing.shift (skipped : Nat) : Landing → Landing
  | ends stop => ends stop
  | finishes visit => finishes (visit.shift skipped)
  | passes visit => passes (visit.shift skipped)

namespace Walk

/-- The walk seen from a first offset that lies further back. -/
def shift (walk : Walk) (skipped : Nat) : Walk :=
  ⟨walk.visits.map fun visit ↦ visit.shift skipped, skipped + walk.last, walk.stop⟩

@[simp]
theorem shift_visits (walk : Walk) (skipped : Nat) :
    (walk.shift skipped).visits = walk.visits.map fun visit ↦ visit.shift skipped := rfl

@[simp]
theorem shift_stop (walk : Walk) (skipped : Nat) : (walk.shift skipped).stop = walk.stop := rfl

@[simp]
theorem shift_events (walk : Walk) (skipped : Nat) :
    (walk.shift skipped).events = walk.events :=
  List.filterMap_map

@[simp]
theorem shift_stats (walk : Walk) (skipped : Nat) : (walk.shift skipped).stats = walk.stats := by
  simp only [stats, shift_events, shift_stop, shift_visits, List.length_map, List.countP_map]
  rfl

end Walk

theorem payloadAt?_append_right (a b : Bytes) (start : Nat) :
    payloadAt? (a ++ b) (a.length + start) = payloadAt? b start := by
  have hword16 (offset : Nat) : (a ++ b).word16At (a.length + offset) = b.word16At offset := by
    rw [Bytes.word16At_append_right a b _ (Nat.le_add_right _ _), Nat.add_sub_cancel_left]
  have hword32 (offset : Nat) : (a ++ b).word32At (a.length + offset) = b.word32At offset := by
    rw [Bytes.word32At_append_right a b _ (Nat.le_add_right _ _), Nat.add_sub_cancel_left]
  simp only [payloadAt?, Nat.add_assoc, hword16, hword32]

theorem landingAt_append_right (a b : Bytes) (start : Nat) :
    landingAt (a ++ b) (a.length + start) = (landingAt b start).shift a.length := by
  have hword16 : (a ++ b).word16At (a.length + (start + 4)) = b.word16At (start + 4) := by
    rw [Bytes.word16At_append_right a b _ (Nat.le_add_right _ _), Nat.add_sub_cancel_left]
  have hword32 : (a ++ b).word32At (a.length + start) = b.word32At start := by
    rw [Bytes.word32At_append_right a b _ (Nat.le_add_right _ _), Nat.add_sub_cancel_left]
  simp only [landingAt, payloadAt?_append_right, Nat.add_assoc, hword16, hword32,
    List.length_append, Nat.add_le_add_iff_left, Nat.add_lt_add_iff_left, Nat.add_sub_add_left]
  repeat' split
  all_goals rfl

/-- Bytes before the offset that a walk starts at only move its offsets. -/
theorem walkFrom_append_right (a b : Bytes) (start : Nat) :
    walkFrom (a ++ b) (a.length + start) = (walkFrom b start).shift a.length := by
  fun_induction walkFrom b start with
  | case1 start stop hlanding =>
    have hlanding' := landingAt_append_right a b start
    rw [hlanding] at hlanding'
    exact walkFrom_of_ends hlanding'
  | case2 start visit hlanding =>
    have hlanding' := landingAt_append_right a b start
    rw [hlanding] at hlanding'
    exact walkFrom_of_finishes hlanding'
  | case3 start visit hlanding ih =>
    have hlanding' := landingAt_append_right a b start
    rw [hlanding] at hlanding'
    rw [walkFrom_of_passes hlanding', Visit.shift, Nat.add_assoc, ih]
    rfl

/-! ## Walks through both -/

namespace Walk

/-- The walk with visits before it. -/
def behind (walk : Walk) (visits : List Visit) : Walk :=
  { walk with visits := visits ++ walk.visits }

theorem events_behind (walk first : Walk) :
    (walk.behind first.visits).events = first.events ++ walk.events :=
  List.filterMap_append

theorem stats_behind (walk first : Walk) (h : first.stop = .exhausted) :
    (walk.behind first.visits).stats = first.stats.merge walk.stats := by
  have hframes : first.stop.frames = 0 := by rw [h]; rfl
  have htruncations : first.stop.truncations = 0 := by rw [h]; rfl
  simp only [stats, events_behind, DecodeStats.merge, hframes, htruncations, Nat.add_zero,
    Nat.zero_add, List.length_append, DecodeStats.mk.injEq]
  simp only [behind, List.length_append, List.countP_append, Nat.add_assoc, and_self]

end Walk

/-- A walk that ends by itself does not look at what stands behind the batch. -/
theorem walkFrom_append_of_isSettled (a b : Bytes) (start : Nat)
    (h : (walkFrom a start).stop.IsSettled) : walkFrom (a ++ b) start = walkFrom a start := by
  fun_induction walkFrom a start with
  | case1 start stop hlanding =>
    have hsettled : (landingAt a start).IsSettled := by
      rw [hlanding]
      exact h
    exact walkFrom_of_ends ((landingAt_append a b start hsettled).trans hlanding)
  | case2 start visit hlanding =>
    have hsettled : (landingAt a start).IsSettled := by
      rw [hlanding]
      trivial
    exact walkFrom_of_finishes ((landingAt_append a b start hsettled).trans hlanding)
  | case3 start visit hlanding ih =>
    have hsettled : (landingAt a start).IsSettled := by
      rw [hlanding]
      trivial
    rw [walkFrom_of_passes ((landingAt_append a b start hsettled).trans hlanding), ih h]

/-- A walk that uses up its batch goes on behind it. -/
theorem walkFrom_append_of_exhausted (a b : Bytes) (start : Nat)
    (h : (walkFrom a start).stop = .exhausted) :
    walkFrom (a ++ b) start =
      (walkFrom (a ++ b) (walkFrom a start).last).behind (walkFrom a start).visits := by
  fun_induction walkFrom a start with
  | case1 start stop hlanding => rfl
  | case2 start visit hlanding => cases h
  | case3 start visit hlanding ih =>
    have hsettled : (landingAt a start).IsSettled := by
      rw [hlanding]
      trivial
    rw [walkFrom_of_passes ((landingAt_append a b start hsettled).trans hlanding), ih h]
    rfl

theorem last_of_exhausted (bytes : Bytes) (start : Nat)
    (h : (walkFrom bytes start).stop = .exhausted) :
    (walkFrom bytes start).last =
      start + ((walkFrom bytes start).visits.map fun visit ↦ align visit.length).sum := by
  fun_induction walkFrom bytes start with
  | case1 start stop hlanding => rfl
  | case2 start visit hlanding => cases h
  | case3 start visit hlanding ih =>
    rw [Walk.after_last, ih h, Walk.after_visits, List.map_cons, List.sum_cons, Nat.add_assoc]

/-- Two batches one behind the other decode to the events of both where the first one consists of
complete frames with all of their padding and none of them ends the walk. Where a frame of the first
one ends it, or a length or a payload that is too short, the second one makes no difference. -/
theorem decode_append (a b : Bytes) :
    let walk := walkFrom a 0
    (walk.stop = .exhausted →
      a.length = (walk.visits.map fun visit ↦ align visit.length).sum →
        (decode (a ++ b)).1 = (decode a).1 ++ (decode b).1 ∧
          (decode (a ++ b)).2.stats = (decode a).2.stats.merge (decode b).2.stats ∧
          (decode (a ++ b)).2.interruption = (decode b).2.interruption) ∧
      (walk.stop.IsSettled →
        (decode (a ++ b)).1 = (decode a).1 ∧
          (decode (a ++ b)).2.stats = (decode a).2.stats ∧
          (decode (a ++ b)).2.interruption = (decode a).2.interruption) := by
  intro walk
  have hfirst : IsWalkOf a walk := isWalkOf_walkFrom a
  have hsecond := isWalkOf_walkFrom b
  have hboth := isWalkOf_walkFrom (a ++ b)
  refine ⟨fun hexhausted haligned ↦ ?_, fun hsettled ↦ ?_⟩
  · have hlast : walk.last = a.length := by
      rw [last_of_exhausted a 0 hexhausted, haligned, Nat.zero_add]
    have hwalk : walkFrom (a ++ b) 0 = ((walkFrom b 0).shift a.length).behind walk.visits := by
      rw [walkFrom_append_of_exhausted a b 0 hexhausted, hlast, ← walkFrom_append_right,
        Nat.add_zero]
    rw [hwalk] at hboth
    refine ⟨?_, ?_, ?_⟩
    · rw [hboth.events, Walk.events_behind, Walk.shift_events, hfirst.events, hsecond.events]
    · rw [hboth.stats, Walk.stats_behind _ walk hexhausted, Walk.shift_stats, hfirst.stats,
        hsecond.stats]
    · rw [hboth.interruption, hsecond.interruption]
      rfl
  · rw [walkFrom_append_of_isSettled a b 0 hsettled] at hboth
    refine ⟨?_, ?_, ?_⟩
    · rw [hboth.events, hfirst.events]
    · rw [hboth.stats, hfirst.stats]
    · rw [hboth.interruption, hfirst.interruption]

/-- A frame with three bytes of padding, an event and a no-op before another batch, and the same
frames before a length that is too short, with the other batch behind that. -/
theorem decode_append_group_frame :
    let a := connectorFrame 16 0 (List.replicate 17 1) ++
      identityFrame 16 userChanged ⟨5, 5, 1, 2⟩ ++ controlFrame noopKind
    let b := groupFrame 6 3 4
    let broken := a ++ List.replicate 16 0
    (walkFrom a 0).stop = .exhausted ∧
      a.length = ((walkFrom a 0).visits.map fun visit ↦ align visit.length).sum ∧
      (decode (a ++ b)).1 = [⟨5, 5, .user, 1, 2⟩, ⟨6, 6, .group, 3, 4⟩] ∧
      (decode (a ++ b)).2.stats = ⟨4, 1, 2, 1, 0⟩ ∧
      (walkFrom broken 0).stop.IsSettled ∧
      (decode (broken ++ b)).1 = [⟨5, 5, .user, 1, 2⟩] ∧
      (decode (broken ++ b)).2.stats = ⟨3, 1, 1, 1, 1⟩ := by
  intro a b broken
  have hexhausted : (walkFrom a 0).stop = .exhausted := by decide +kernel
  have haligned : a.length = ((walkFrom a 0).visits.map fun visit ↦ align visit.length).sum := by
    decide +kernel
  have hsettled : (walkFrom broken 0).stop.IsSettled := by
    have hstop : (walkFrom broken 0).stop = .shortLength := by decide +kernel
    rw [hstop]
    trivial
  obtain ⟨hevents, hstats, -⟩ := (decode_append a b).1 hexhausted haligned
  obtain ⟨hevents', hstats', -⟩ := (decode_append broken b).2 hsettled
  exact ⟨hexhausted, haligned, hevents.trans (by decide +kernel),
    hstats.trans (by decide +kernel), hsettled, hevents'.trans (by decide +kernel),
    hstats'.trans (by decide +kernel)⟩

end Regroup.Netlink
