import Regroup.Proofs.Netlink.Calls

/-!
# The counters of a decoder

At any point of a walk the frames are those that held no-ops, events and messages to be ignored, and
at its end perhaps one more: the marker of the kernel, or the frame whose payload was too short. The
frames lie in the batch one behind the other, so the counters also bound its length from below.
-/

namespace Regroup.Netlink

open Credential (Event)

/-! ## Frames take room -/

/-- A frame that ends the walk and is counted has at least its header in the batch. -/
theorem room_of_landingAt_ends (bytes : Bytes) (start : Nat) (stop : Stop)
    (h : landingAt bytes start = .ends stop) : 16 * stop.frames ≤ bytes.length - start := by
  unfold landingAt at h
  dsimp only at h
  split at h
  · cases h
    exact Nat.zero_le _
  split at h
  · cases h
    exact Nat.zero_le _
  have hheader : 16 ≤ bytes.length - start := by omega
  split at h
  · cases h
    exact Nat.zero_le _
  split at h
  · cases h
    exact Nat.zero_le _
  split at h
  · cases h
  split at h
  · cases h
    exact hheader
  split at h
  · cases h
    exact hheader
  split at h
  · cases h
    exact hheader
  · split at h <;> cases h

/-- The room that a frame takes: its header, and for an event all of the message. -/
theorem Visit.IsIn.room_le {visit : Visit} {bytes : Bytes} (h : visit.IsIn bytes) :
    16 + 52 * visit.event?.toList.length ≤ visit.length := by
  have hsize := h.size_le
  have hevent := h.event_le
  cases hfound : visit.event? with
  | none => simpa using hsize
  | some event =>
    have hroom := hevent (by rw [hfound]; rfl)
    simpa using hroom

theorem room_walkFrom (bytes : Bytes) (start : Nat) :
    16 * (walkFrom bytes start).stats.frames + 52 * (walkFrom bytes start).events.length ≤
      bytes.length - start := by
  fun_induction walkFrom bytes start with
  | case1 start stop hlanding =>
    have hroom := room_of_landingAt_ends bytes start stop hlanding
    simpa [Walk.stats, Walk.events, Walk.ending] using hroom
  | case2 start visit hlanding =>
    obtain ⟨hstart, hin⟩ := isIn_of_landingAt bytes start visit (by rw [hlanding]; rfl)
    have hend := hin.end_le
    have hroom := hin.room_le
    have hframes : ((Walk.ending start .final).after visit).stats.frames = 1 := rfl
    have hevents : ((Walk.ending start .final).after visit).events = visit.event?.toList := by
      rw [Walk.events_after]
      exact List.append_nil _
    rw [hframes, hevents]
    omega
  | case3 start visit hlanding ih =>
    obtain ⟨hstart, hin⟩ := isIn_of_landingAt bytes start visit (by rw [hlanding]; rfl)
    have hend := hin.end_le
    have hroom := hin.room_le
    have hge := Decoder.align_ge visit.length
    have hframes : ((walkFrom bytes (start + align visit.length)).after visit).stats.frames =
        (walkFrom bytes (start + align visit.length)).stats.frames + 1 := by
      simp only [Walk.stats, Walk.after_visits, Walk.after_stop, List.length_cons]
      omega
    rw [hframes, Walk.events_after, List.length_append]
    omega

namespace Walk

variable (walk : Walk) (calls : Nat)

/-- Part of a walk has no more frames and no more events than all of it. -/
theorem stats_upTo_le :
    (walk.upTo calls).stats.frames ≤ walk.stats.frames ∧
      (walk.upTo calls).stats.credentialEvents ≤ walk.stats.credentialEvents := by
  unfold upTo
  split
  · exact ⟨Nat.le_refl _, Nat.le_refl _⟩
  · have hsublist := (prefix_visitsUpTo calls walk.visits).sublist
    exact ⟨Nat.le_add_right_of_le hsublist.length_le,
      (hsublist.filterMap Visit.event?).length_le⟩

/-- Every frame is counted as just one of the three, besides the one that ends the walk. -/
theorem frames_eq : walk.stats.frames =
    walk.stats.noops + walk.stats.credentialEvents + walk.stats.ignored + walk.stop.frames := by
  rw [← walk.length_visits]
  rfl

end Walk

theorem Stop.frames_eq (stop : Stop) : stop.frames =
    (if stop.interruption?.isSome then 1 else 0) + if stop = .shortPayload then 1 else 0 := by
  cases stop <;> rfl

/-- The reasons to end at which the rest of the batch is given up: a header that is not complete, a
declared length that is too small or too large, and a payload that is too short. -/
def Stop.IsTruncation (stop : Stop) : Prop :=
  stop = .shortHeader ∨ stop = .shortLength ∨ stop = .overlong ∨ stop = .shortPayload

instance : DecidablePred Stop.IsTruncation := fun stop ↦
  inferInstanceAs (Decidable (stop = .shortHeader ∨ stop = .shortLength ∨ stop = .overlong ∨
    stop = .shortPayload))

theorem Stop.truncations_eq (stop : Stop) :
    stop.truncations = if stop.IsTruncation then 1 else 0 := by
  cases stop <;> rfl

/-! ## After a number of calls -/

theorem length_events_visitsUpTo (calls : Nat) (visits : List Visit) :
    ((visitsUpTo calls visits).filterMap Visit.event?).length =
      min calls (visits.filterMap Visit.event?).length := by
  induction visits generalizing calls with
  | nil => cases calls <;> simp [visitsUpTo]
  | cons visit visits ih =>
    cases calls with
    | zero => simp [visitsUpTo]
    | succ calls =>
      rw [visitsUpTo, List.filterMap_cons, List.filterMap_cons]
      cases visit.event? with
      | none => exact ih (calls + 1)
      | some event => simp [ih calls]

theorem Walk.credentialEvents_upTo (walk : Walk) (calls : Nat) :
    (walk.upTo calls).stats.credentialEvents = min calls walk.events.length := by
  unfold upTo
  split
  · rename_i hended
    exact (Nat.min_eq_right (Nat.le_of_lt hended)).symm
  · exact length_events_visitsUpTo calls walk.visits

namespace Decoder

variable (bytes : Bytes) (calls : Nat)

theorem countP_isSome_answers : ((ofBatch bytes).answers calls).countP Option.isSome =
    min calls (walkFrom bytes 0).events.length := by
  rw [answers_ofBatch]
  generalize (walkFrom bytes 0).events = events
  induction calls generalizing events with
  | zero => simp
  | succ calls ih =>
    rw [List.range_succ_eq_map, List.map_cons, List.map_map, List.countP_cons]
    cases events with
    | nil => simp [Function.comp_def]
    | cons event events =>
      have hlater := ih events
      simp only [Function.comp_def, List.getElem?_cons_succ] at hlater ⊢
      simp [hlater]

/-- The walk has come to its end with the first call that finds no event. -/
theorem none_mem_answers_iff :
    none ∈ (ofBatch bytes).answers calls ↔ (walkFrom bytes 0).events.length < calls := by
  simp only [answers_ofBatch, List.mem_map, List.mem_range, List.getElem?_eq_none_iff]
  constructor
  · rintro ⟨call, hcall, hbehind⟩
    omega
  · exact fun hended ↦ ⟨_, hended, Nat.le_refl _⟩

theorem le_of_getLast?_answers (event : Event)
    (h : ((ofBatch bytes).answers calls).getLast? = some (some event)) :
    calls ≤ (walkFrom bytes 0).events.length := by
  rw [answers_ofBatch, List.getLast?_map, List.getLast?_range] at h
  split at h
  · cases h
  · obtain ⟨hlast, -⟩ := List.getElem?_eq_some_iff.1 (Option.some.inj h)
    omega

/-- How the counters of a decoder stand to its answers and to the walk that it is on. -/
structure Balance (walk : Walk) (answers : List (Option Event)) (d : Decoder) : Prop where
  events : d.stats.credentialEvents = answers.countP Option.isSome
  goesOn : ∀ event, answers.getLast? = some (some event) →
    d.stats.frames = d.stats.noops + d.stats.credentialEvents + d.stats.ignored ∧
      d.stats.truncated = 0 ∧ d.interruption = none
  frames : none ∈ answers → d.stats.frames =
    d.stats.noops + d.stats.credentialEvents + d.stats.ignored +
      (if d.interruption.isSome then 1 else 0) + if walk.stop = .shortPayload then 1 else 0
  truncated : none ∈ answers →
    d.stats.truncated = (if walk.stop.IsTruncation then 1 else 0) ∧
      (d.interruption.isSome → d.stats.truncated ≠ 1)
  settled : none ∈ answers → ∀ later,
    d.answers later = List.replicate later none ∧ d.afterCalls later = d

/-- Whatever the batch and the number of calls, the counters balance, and there is room in the batch
for what they have counted. -/
theorem counters_balance :
    Balance (walkFrom bytes 0) ((ofBatch bytes).answers calls) ((ofBatch bytes).afterCalls calls) ∧
      16 * ((ofBatch bytes).afterCalls calls).stats.frames +
        52 * ((ofBatch bytes).afterCalls calls).stats.credentialEvents ≤ bytes.length := by
  let d := (ofBatch bytes).afterCalls calls
  let walk := walkFrom bytes 0
  have hstats : d.stats = (walk.upTo calls).stats := stats_afterCalls bytes calls
  have hinterruption : d.interruption = (walk.upTo calls).stop.interruption? :=
    interruption_afterCalls bytes calls
  have hended : none ∈ (ofBatch bytes).answers calls → walk.upTo calls = walk := fun hnone ↦
    walk.upTo_of_lt calls ((none_mem_answers_iff bytes calls).1 hnone)
  refine ⟨?_, ?_⟩
  · constructor
    case events =>
      rw [hstats, Walk.credentialEvents_upTo, countP_isSome_answers]
    case goesOn =>
      intro event hlast
      have hstop : (walk.upTo calls).stop = .exhausted := by
        rw [walk.upTo_of_le calls (le_of_getLast?_answers bytes calls event hlast)]
      have hframes := (walk.upTo calls).frames_eq
      rw [hstop] at hframes hinterruption
      rw [hstats]
      refine ⟨hframes, ?_, hinterruption⟩
      change (walk.upTo calls).stop.truncations = 0
      rw [hstop]
      rfl
    case frames =>
      intro hnone
      rw [hstats, hinterruption, hended hnone, walk.frames_eq, Stop.frames_eq]
      exact (Nat.add_assoc _ _ _).symm
    case truncated =>
      intro hnone
      have htruncated : d.stats.truncated = if walk.stop.IsTruncation then 1 else 0 := by
        rw [hstats, hended hnone, ← Stop.truncations_eq]
        rfl
      refine ⟨htruncated, ?_⟩
      rw [htruncated, hinterruption, hended hnone]
      cases walk.stop <;> simp [Stop.interruption?, Stop.IsTruncation]
    case settled =>
      intro hnone later
      have hfinished := finished_of_none_mem_answers _ calls hnone
      exact ⟨answers_of_finished d hfinished later, afterCalls_of_finished d hfinished later⟩
  · have hroom : 16 * walk.stats.frames + 52 * walk.events.length ≤ bytes.length :=
      room_walkFrom bytes 0
    obtain ⟨hframes, hevents⟩ := walk.stats_upTo_le calls
    have hall : walk.stats.credentialEvents = walk.events.length := rfl
    rw [hstats]
    omega

/-- A no-op, an event, a message of another connector and the marker of an error: with the first
call the walk has come to the event, with the second to the marker. -/
theorem counters_balance_at_marker :
    let bytes := controlFrame noopKind ++ identityFrame 16 userChanged ⟨5, 5, 1, 2⟩ ++
      controlFrame errorKind ++ groupFrame 6 3 4
    let once := (ofBatch bytes).afterCalls 1
    let twice := (ofBatch bytes).afterCalls 2
    (ofBatch bytes).answers 2 = [some ⟨5, 5, .user, 1, 2⟩, none] ∧
      once.stats = ⟨2, 1, 1, 0, 0⟩ ∧ twice.stats = ⟨3, 1, 1, 0, 0⟩ ∧
      once.stats.frames =
        once.stats.noops + once.stats.credentialEvents + once.stats.ignored ∧
      twice.stats.frames =
        twice.stats.noops + twice.stats.credentialEvents + twice.stats.ignored + 1 ∧
      twice.afterCalls 3 = twice := by
  intro bytes once twice
  have hfirst : ((ofBatch bytes).answers 1).getLast? = some (some ⟨5, 5, .user, 1, 2⟩) := by
    decide +kernel
  have hanswers : (ofBatch bytes).answers 2 = [some ⟨5, 5, .user, 1, 2⟩, none] := by
    decide +kernel
  have hnone : none ∈ (ofBatch bytes).answers 2 := by simp [hanswers]
  obtain ⟨hgoing, -⟩ := counters_balance bytes 1
  obtain ⟨hended, -⟩ := counters_balance bytes 2
  have hmarked : twice.interruption = some .error := by decide +kernel
  have hstop : (walkFrom bytes 0).stop ≠ .shortPayload := by decide +kernel
  have hframes := hended.frames hnone
  rw [if_neg hstop, if_pos (show twice.interruption.isSome by rw [hmarked]; rfl)] at hframes
  exact ⟨hanswers, by decide +kernel, by decide +kernel, (hgoing.goesOn _ hfirst).1, hframes,
    (hended.settled hnone 3).2⟩

end Decoder

end Regroup.Netlink
