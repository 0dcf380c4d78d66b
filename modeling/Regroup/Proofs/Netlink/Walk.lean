import Regroup.Netlink.Batch

/-!
# Walks by offsets

A walk through a batch is told by offsets into the whole batch. At each offset the length, the kind
and the payload of a frame are read from fixed places, the next frame starts behind the padding, and
the walk ends for one of seven reasons. All offsets are as aligned as the first one, and the frames
that a walk goes past lie inside the batch, one behind the other.
-/

namespace Regroup.Netlink

open Credential (Event)

/-- What a frame that the walk goes past holds. -/
inductive Content where
  | noop
  | other
  | event (event : Event)
deriving DecidableEq

namespace Content

def event? : Content → Option Event
  | event found => some found
  | noop | other => none

/-- The frame counts as one, and as what it holds. -/
def stats : Content → DecodeStats
  | noop => { frames := 1, noops := 1 }
  | other => { frames := 1, ignored := 1 }
  | event _ => { frames := 1, credentialEvents := 1 }

end Content

structure Visit where
  start : Nat
  length : Nat
  content : Content
deriving DecidableEq

namespace Visit

def event? (visit : Visit) : Option Event :=
  visit.content.event?

def isNoop (visit : Visit) : Bool :=
  visit.content = .noop

def isOther (visit : Visit) : Bool :=
  visit.content = .other

/-- The frame lies inside the batch and has room for what it holds. -/
structure IsIn (visit : Visit) (bytes : Bytes) : Prop where
  size_le : 16 ≤ visit.length
  end_le : visit.start + visit.length ≤ bytes.length
  event_le : visit.event?.isSome → 68 ≤ visit.length

end Visit

/-- Why a walk ends: no byte is left, the rest is too short for a header, the header declares fewer
bytes than it has itself or more than there are, the payload is too short for what it declares, the
frame was the final one, or the kernel put a marker there. -/
inductive Stop where
  | exhausted
  | shortHeader
  | shortLength
  | overlong
  | shortPayload
  | final
  | interrupted (interruption : Interruption)
deriving DecidableEq

namespace Stop

def interruption? : Stop → Option Interruption
  | interrupted interruption => some interruption
  | _ => none

/-- Complete frames that end the walk without being visited. -/
def frames : Stop → Nat
  | shortPayload | interrupted _ => 1
  | _ => 0

def truncations : Stop → Nat
  | shortHeader | shortLength | overlong | shortPayload => 1
  | _ => 0

end Stop

/-- The frames that a walk goes past, the last offset that it comes to, and why it ends there. -/
structure Walk where
  visits : List Visit
  last : Nat
  stop : Stop
deriving DecidableEq

namespace Walk

/-- A walk that ends where it starts. -/
def ending (start : Nat) (stop : Stop) : Walk :=
  ⟨[], start, stop⟩

/-- The walk with a visit before it. -/
def after (walk : Walk) (visit : Visit) : Walk :=
  { walk with visits := visit :: walk.visits }

def events (walk : Walk) : List Event :=
  walk.visits.filterMap Visit.event?

def offsets (walk : Walk) : List Nat :=
  walk.visits.map Visit.start ++ [walk.last]

def stats (walk : Walk) : DecodeStats where
  frames := walk.visits.length + walk.stop.frames
  noops := walk.visits.countP Visit.isNoop
  credentialEvents := walk.events.length
  ignored := walk.visits.countP Visit.isOther
  truncated := walk.stop.truncations

variable (walk : Walk) (visit : Visit)

@[simp]
theorem after_visits : (walk.after visit).visits = visit :: walk.visits := rfl

@[simp]
theorem after_last : (walk.after visit).last = walk.last := rfl

@[simp]
theorem after_stop : (walk.after visit).stop = walk.stop := rfl

@[simp]
theorem events_after :
    (walk.after visit).events = visit.event?.toList ++ walk.events := by
  simp only [events, after_visits, List.filterMap_cons]
  cases visit.event? <;> rfl

theorem stats_after :
    (walk.after visit).stats = visit.content.stats.merge walk.stats := by
  obtain ⟨start, length, content⟩ := visit
  simp only [stats, events_after, after_visits, after_stop, DecodeStats.merge,
    DecodeStats.mk.injEq, List.length_cons, List.countP_cons, List.length_append]
  cases content with
  | noop | other | event found =>
    simp [Content.stats, Visit.event?, Content.event?, Visit.isNoop, Visit.isOther]
    omega

/-- Every visit is counted as just one of the three. -/
theorem length_visits :
    walk.visits.length = walk.stats.noops + walk.stats.credentialEvents + walk.stats.ignored := by
  simp only [stats, events]
  induction walk.visits with
  | nil => rfl
  | cons visit visits ih =>
    obtain ⟨start, length, content⟩ := visit
    simp only [List.length_cons, List.countP_cons, List.filterMap_cons, ih]
    cases content with
    | noop | other | event found =>
      simp [Visit.event?, Content.event?, Visit.isNoop, Visit.isOther]
      omega

end Walk

/-! ## Reading by offsets -/

/-- What the payload of the frame at an offset holds, none where it is too short. -/
def payloadAt? (bytes : Bytes) (start : Nat) : Option Content :=
  let length := (bytes.word32At start).toNat
  let dataLength := (bytes.word16At (start + 32)).toNat
  if length - 16 < 20 then none
  else if bytes.word32At (start + 16) ≠ 1 ∨ bytes.word32At (start + 20) ≠ 1 then some .other
  else if length - 36 < dataLength ∨ dataLength < 16 then none
  else
    match kindOf? (bytes.word32At (start + 36)) with
    | none => some .other
    | some kind =>
      if dataLength < 32 then none
      else some (.event ⟨(bytes.word32At (start + 52)).toInt32,
        (bytes.word32At (start + 56)).toInt32, kind, bytes.word32At (start + 60),
        bytes.word32At (start + 64)⟩)

/-- What a walk meets at an offset: a reason to end, or a frame, which may be the final one. -/
inductive Landing where
  | ends (stop : Stop)
  | finishes (visit : Visit)
  | passes (visit : Visit)
deriving DecidableEq

def Landing.visit? : Landing → Option Visit
  | ends _ => none
  | finishes visit | passes visit => some visit

def landingAt (bytes : Bytes) (start : Nat) : Landing :=
  let length := (bytes.word32At start).toNat
  let kind := bytes.word16At (start + 4)
  if bytes.length ≤ start then .ends .exhausted
  else if bytes.length < start + 16 then .ends .shortHeader
  else if length < 16 then .ends .shortLength
  else if bytes.length - start < length then .ends .overlong
  else if kind = noopKind then .passes ⟨start, length, .noop⟩
  else if kind = errorKind then .ends (.interrupted .error)
  else if kind = overrunKind then .ends (.interrupted .overrun)
  else
    match payloadAt? bytes start with
    | none => .ends .shortPayload
    | some content =>
      if kind = doneKind then .finishes ⟨start, length, content⟩
      else .passes ⟨start, length, content⟩

theorem payloadAt?_ne_noop (bytes : Bytes) (start : Nat) :
    payloadAt? bytes start ≠ some .noop := by
  unfold payloadAt?
  dsimp only
  split
  · simp
  split
  · simp
  split
  · simp
  split
  · simp
  split <;> simp

/-- An event is read from the first sixty-eight bytes of its frame. -/
theorem le_length_of_payloadAt? (bytes : Bytes) (start : Nat) (content : Content)
    (h : payloadAt? bytes start = some content) (hevent : content.event?.isSome) :
    68 ≤ (bytes.word32At start).toNat := by
  unfold payloadAt? at h
  dsimp only at h
  split at h
  · cases h
  split at h
  · obtain rfl := Option.some.inj h
    cases hevent
  split at h
  · cases h
  split at h
  · obtain rfl := Option.some.inj h
    cases hevent
  split at h
  · cases h
  · omega

theorem isIn_of_landingAt (bytes : Bytes) (start : Nat) (visit : Visit)
    (h : (landingAt bytes start).visit? = some visit) :
    visit.start = start ∧ visit.IsIn bytes := by
  unfold landingAt at h
  dsimp only at h
  split at h
  · cases h
  split at h
  · cases h
  split at h
  · cases h
  split at h
  · cases h
  have hsize : 16 ≤ (bytes.word32At start).toNat := by omega
  have hend : start + (bytes.word32At start).toNat ≤ bytes.length := by omega
  split at h
  · obtain rfl := Option.some.inj h
    exact ⟨rfl, hsize, hend, fun hevent ↦ nomatch hevent⟩
  split at h
  · cases h
  split at h
  · cases h
  split at h
  · cases h
  rename_i content hpayload
  have hroom := le_length_of_payloadAt? bytes start content hpayload
  split at h
  · obtain rfl := Option.some.inj h
    exact ⟨rfl, hsize, hend, hroom⟩
  · obtain rfl := Option.some.inj h
    exact ⟨rfl, hsize, hend, hroom⟩

/-- The walk from an offset on. -/
def walkFrom (bytes : Bytes) (start : Nat) : Walk :=
  match _hlanding : landingAt bytes start with
  | .ends stop => .ending start stop
  | .finishes visit => (Walk.ending start .final).after visit
  | .passes visit => (walkFrom bytes (start + align visit.length)).after visit
termination_by bytes.length - start
decreasing_by
  obtain ⟨hstart, hin⟩ := isIn_of_landingAt bytes start visit (by rw [_hlanding]; rfl)
  have hsize := hin.size_le
  have hend := hin.end_le
  have hge := Decoder.align_ge visit.length
  omega

theorem walkFrom_of_ends {bytes : Bytes} {start : Nat} {stop : Stop}
    (h : landingAt bytes start = .ends stop) : walkFrom bytes start = .ending start stop := by
  rw [walkFrom]
  split <;> rename_i hlanding <;> rw [h] at hlanding <;> cases hlanding
  rfl

theorem walkFrom_of_finishes {bytes : Bytes} {start : Nat} {visit : Visit}
    (h : landingAt bytes start = .finishes visit) :
    walkFrom bytes start = (Walk.ending start .final).after visit := by
  rw [walkFrom]
  split <;> rename_i hlanding <;> rw [h] at hlanding <;> cases hlanding
  rfl

theorem walkFrom_of_passes {bytes : Bytes} {start : Nat} {visit : Visit}
    (h : landingAt bytes start = .passes visit) :
    walkFrom bytes start = (walkFrom bytes (start + align visit.length)).after visit := by
  rw [walkFrom]
  split <;> rename_i hlanding <;> rw [h] at hlanding <;> cases hlanding
  rfl

/-! ## Where the frames of a walk lie -/

theorem align_dvd (length : Nat) : 4 ∣ align length :=
  Nat.dvd_mul_left 4 _

/-- The frames of a walk lie one behind the other, and every offset is as aligned as the first. -/
structure Walk.IsOrdered (walk : Walk) (bytes : Bytes) (start : Nat) : Prop where
  visits : ∀ visit ∈ walk.visits, start ≤ visit.start ∧ visit.IsIn bytes
  disjoint : walk.visits.Pairwise fun visit later ↦ visit.start + visit.length ≤ later.start
  offsets : ∀ offset ∈ walk.offsets, 4 ∣ start → 4 ∣ offset

theorem isOrdered_walkFrom (bytes : Bytes) (start : Nat) :
    (walkFrom bytes start).IsOrdered bytes start := by
  fun_induction walkFrom bytes start with
  | case1 start stop hlanding =>
    refine ⟨List.forall_mem_nil _, .nil, fun offset hoffset haligned ↦ ?_⟩
    rwa [List.mem_singleton.1 hoffset]
  | case2 start visit hlanding =>
    obtain ⟨hstart, hin⟩ := isIn_of_landingAt bytes start visit (by rw [hlanding]; rfl)
    refine ⟨fun other hother ↦ ?_, List.pairwise_singleton _ visit,
      fun offset hoffset haligned ↦ ?_⟩
    · rw [List.mem_singleton.1 hother]
      exact ⟨Nat.le_of_eq hstart.symm, hin⟩
    · have hoffset' : offset = start := by
        simpa [Walk.offsets, Walk.ending, hstart] using hoffset
      rwa [hoffset']
  | case3 start visit hlanding ih =>
    obtain ⟨hstart, hin⟩ := isIn_of_landingAt bytes start visit (by rw [hlanding]; rfl)
    have hge := Decoder.align_ge visit.length
    refine ⟨fun other hother ↦ ?_, List.pairwise_cons.2 ⟨fun later hlater ↦ ?_, ih.disjoint⟩,
      fun offset hoffset haligned ↦ ?_⟩
    · rcases List.mem_cons.1 hother with rfl | hlater
      · exact ⟨Nat.le_of_eq hstart.symm, hin⟩
      · obtain ⟨hbehind, hother⟩ := ih.visits other hlater
        exact ⟨by omega, hother⟩
    · have hbehind := (ih.visits later hlater).1
      omega
    · rcases List.mem_cons.1 hoffset with rfl | hlater
      · rwa [hstart]
      · exact ih.offsets offset hlater (Nat.dvd_add haligned (align_dvd visit.length))

end Regroup.Netlink
