import Regroup.Proofs.Netlink.Offsets

/-!
# A walk call by call

A decoder is asked for one event at a time. With every call it goes past the frames up to the next
event, and with the first call that finds none it goes to the end of the walk and stays there. So
what it has answered and counted after some calls is what the walk by offsets holds up to there.
-/

namespace Regroup.Netlink

open Credential (Event)

/-- The visits up to the event of a number of calls, and all of them where there are fewer
events. -/
def visitsUpTo : Nat → List Visit → List Visit
  | 0, _ => []
  | _ + 1, [] => []
  | calls + 1, visit :: visits =>
    visit :: visitsUpTo (if visit.event?.isSome then calls else calls + 1) visits

theorem visitsUpTo_zero (visits : List Visit) : visitsUpTo 0 visits = [] := by
  cases visits <;> rfl

theorem prefix_visitsUpTo (calls : Nat) (visits : List Visit) :
    visitsUpTo calls visits <+: visits := by
  induction visits generalizing calls with
  | nil => cases calls <;> exact List.prefix_rfl
  | cons visit visits ih =>
    cases calls with
    | zero =>
      rw [visitsUpTo_zero]
      exact List.nil_prefix
    | succ calls => exact (List.prefix_cons_inj visit).2 (ih _)

namespace Walk

/-- The walk as far as a number of calls go. As long as there is an event for every call it has not
come to its end, and counts like a walk that uses up its batch. -/
def upTo (walk : Walk) (calls : Nat) : Walk :=
  if walk.events.length < calls then walk
  else { walk with visits := visitsUpTo calls walk.visits, stop := .exhausted }

variable (walk : Walk) (calls : Nat)

theorem upTo_of_lt (h : walk.events.length < calls) : walk.upTo calls = walk :=
  if_pos h

theorem upTo_of_le (h : calls ≤ walk.events.length) :
    walk.upTo calls = { walk with visits := visitsUpTo calls walk.visits, stop := .exhausted } :=
  if_neg (Nat.not_lt.2 h)

theorem stats_upTo_zero : (walk.upTo 0).stats = {} := by
  rw [walk.upTo_of_le 0 (Nat.zero_le _), visitsUpTo_zero]
  rfl

theorem stop_upTo_zero : (walk.upTo 0).stop = .exhausted := by
  rw [walk.upTo_of_le 0 (Nat.zero_le _)]

theorem upTo_ending (start : Nat) (stop : Stop) :
    (Walk.ending start stop).upTo (calls + 1) = .ending start stop :=
  upTo_of_lt _ _ (Nat.succ_pos calls)

/-- An event takes one of the calls, and another frame takes none. -/
theorem upTo_after (visit : Visit) :
    (walk.after visit).upTo (calls + 1) =
      (walk.upTo (if visit.event?.isSome then calls else calls + 1)).after visit := by
  have hlength : (walk.after visit).events.length =
      walk.events.length + if visit.event?.isSome then 1 else 0 := by
    rw [events_after, List.length_append]
    cases visit.event? with
    | none => simp
    | some event => simp [Nat.add_comm]
  unfold upTo
  rw [hlength, after_visits, visitsUpTo]
  cases visit.event?.isSome with
  | false =>
    simp only [Bool.false_eq_true, if_false, Nat.add_zero]
    split <;> rfl
  | true =>
    simp only [if_true, Nat.add_lt_add_iff_right]
    split <;> rfl

end Walk

namespace Decoder

/-! ## Calls -/

/-- The decoder after a number of calls for the next event. -/
def afterCalls (d : Decoder) : Nat → Decoder
  | 0 => d
  | calls + 1 => d.next.2.1.afterCalls calls

/-- What a number of calls answer, one after the other. -/
def answers (d : Decoder) : Nat → List (Option Event)
  | 0 => []
  | calls + 1 => d.next.1 :: d.next.2.1.answers calls

theorem finished_of_judgePayload (d d' : Decoder) (payload : Bytes) (fault : Option WireError)
    (h : d.judgePayload payload = (.ended fault, d')) : d'.finished = true := by
  unfold judgePayload at h
  split at h
  · cases h
  · cases h
  · obtain ⟨-, rfl⟩ := Prod.mk.inj h
    rfl

theorem finished_of_judgeFrame (d d' : Decoder) (kind : UInt16) (payload : Bytes)
    (fault : Option WireError) (h : d.judgeFrame kind payload = (.ended fault, d')) :
    d'.finished = true := by
  unfold judgeFrame at h
  split at h
  · cases h
  split at h
  · obtain ⟨-, rfl⟩ := Prod.mk.inj h
    rfl
  split at h
  · obtain ⟨-, rfl⟩ := Prod.mk.inj h
    rfl
  split at h
  · exact d.stop.finished_of_judgePayload d' payload fault h
  · exact d.finished_of_judgePayload d' payload fault h

theorem finished_of_ended (d d' : Decoder) (fault : Option WireError)
    (h : d.step = (.ended fault, d')) : d'.finished = true := by
  by_cases hframe : d.IsAtFrame
  · rw [d.step_of_isAtFrame hframe] at h
    exact finished_of_judgeFrame _ d' _ _ fault h
  · cases hfinished : d.finished with
    | true =>
      rw [d.step_of_finished hfinished] at h
      exact (Prod.mk.inj h).2 ▸ hfinished
    | false =>
      by_cases hrest : d.rest = []
      · rw [d.step_of_empty hfinished hrest] at h
        obtain ⟨-, rfl⟩ := Prod.mk.inj h
        rfl
      · obtain ⟨found, hstep⟩ := d.step_of_broken hfinished hrest hframe
        rw [hstep] at h
        obtain ⟨-, rfl⟩ := Prod.mk.inj h
        rfl

theorem finished_of_next_eq_none (d : Decoder) (h : d.next.1 = none) :
    d.next.2.1.finished = true := by
  induction d using walk_induction with
  | yielded d d' event hstep _ =>
    rw [d.next_of_yielded d' event hstep] at h
    cases h
  | skipped d d' hstep ih =>
    rw [d.next_of_skipped d' hstep] at h ⊢
    exact ih h
  | ended d d' fault hstep =>
    rw [d.next_of_ended d' fault hstep]
    exact d.finished_of_ended d' fault hstep

theorem next_of_finished (d : Decoder) (h : d.finished = true) : d.next = (none, d, []) :=
  d.next_of_ended d none (d.step_of_finished h)

theorem afterCalls_of_finished (d : Decoder) (h : d.finished = true) (calls : Nat) :
    d.afterCalls calls = d := by
  induction calls with
  | zero => rfl
  | succ calls ih => rw [afterCalls, d.next_of_finished h, ih]

theorem answers_of_finished (d : Decoder) (h : d.finished = true) (calls : Nat) :
    d.answers calls = List.replicate calls none := by
  induction calls with
  | zero => rfl
  | succ calls ih => rw [answers, d.next_of_finished h, ih, List.replicate_succ]

theorem finished_of_none_mem_answers (d : Decoder) (calls : Nat) (h : none ∈ d.answers calls) :
    (d.afterCalls calls).finished = true := by
  induction calls generalizing d with
  | zero => cases h
  | succ calls ih =>
    rcases List.mem_cons.1 h with hfirst | hlater
    · have hfinished := d.finished_of_next_eq_none hfirst.symm
      rwa [afterCalls, afterCalls_of_finished _ hfinished]
    · exact ih _ hlater

/-! ## Keeping pace with a walk -/

/-- Call by call the decoder answers the events of the walk, and none behind the last of them. It
has counted what the walk holds so far. -/
structure KeepsPace (d : Decoder) (walk : Walk) : Prop where
  answers : ∀ calls, d.answers calls = (List.range calls).map fun call ↦ walk.events[call]?
  stats : ∀ calls, (d.afterCalls calls).stats = d.stats.merge (walk.upTo calls).stats
  interruption : ∀ calls,
    (d.afterCalls calls).interruption = (walk.upTo calls).stop.interruption?

variable {d : Decoder} {bytes : Bytes} {start : Nat}

/-- A decoder that follows a walk without visits ends with the first call. -/
theorem KeepsPace.of_follows {stop : Stop} (hinterruption : d.interruption = none)
    (h : d.Follows (.ending start stop)) : d.KeepsPace (.ending start stop) := by
  have hnext : d.next.1 = none ∧ d.next.2.1 = d.drain.2.1 := by
    rcases hfound : d.next with ⟨_ | event, d', records⟩
    · rw [d.drain_of_next_eq_none d' records hfound]
      exact ⟨rfl, rfl⟩
    · have hevents := h.events
      rw [d.drain_of_next_eq_some d' event records hfound] at hevents
      cases hevents
  have hfinished := d.finished_of_next_eq_none hnext.1
  constructor
  case answers =>
    rintro (_ | calls)
    · rfl
    · rw [Decoder.answers, hnext.1, answers_of_finished _ hfinished, ← List.replicate_succ]
      exact (List.eq_replicate_iff.2 ⟨by simp, by simp [Walk.events, Walk.ending]⟩).symm
  case stats =>
    rintro (_ | calls)
    · rw [Walk.stats_upTo_zero]
      rfl
    · rw [afterCalls, afterCalls_of_finished _ hfinished, hnext.2, h.stats, Walk.upTo_ending]
  case interruption =>
    rintro (_ | calls)
    · rw [Walk.stop_upTo_zero]
      exact hinterruption
    · rw [afterCalls, afterCalls_of_finished _ hfinished, hnext.2, h.interruption,
        Walk.upTo_ending]

/-- A frame that is gone past is counted, and its event, if it holds one, answers a call. -/
theorem KeepsPace.after {passed : Decoder} {content : Content} {length : Nat} {walk : Walk}
    (hinterruption : d.interruption = none)
    (hstep : d.step = (verdictOf content, passed.count content))
    (hpassed : passed.stats = (d.advance length).stats)
    (h : (passed.count content).KeepsPace walk) :
    d.KeepsPace (walk.after ⟨start, length, content⟩) := by
  have hstats : (passed.count content).stats = d.stats.merge content.stats := by
    cases content <;>
      simp only [Decoder.count, countNoop, countIgnored, countEvent, hpassed] <;> rfl
  -- an event uses up one call, and behind any other frame the same call goes on
  have hafter (calls : Nat) : d.afterCalls (calls + 1) =
      (passed.count content).afterCalls
        (if content.event?.isSome then calls else calls + 1) := by
    cases content with
    | noop | other =>
      rw [afterCalls, d.next_of_skipped _ hstep]
      rfl
    | event found =>
      rw [afterCalls, d.next_of_yielded _ found hstep]
      rfl
  constructor
  case answers =>
    rintro (_ | calls)
    · rfl
    cases content with
    | noop | other =>
      have hanswers := h.answers (calls + 1)
      rw [Decoder.answers] at hanswers ⊢
      rw [d.next_of_skipped _ hstep, hanswers]
      rfl
    | event found =>
      rw [Decoder.answers, d.next_of_yielded _ found hstep, List.range_succ_eq_map, List.map_cons,
        List.map_map, h.answers calls]
      rfl
  case stats =>
    rintro (_ | calls)
    · rw [Walk.stats_upTo_zero]
      rfl
    · rw [hafter, h.stats, hstats, merge_assoc, Walk.upTo_after, Walk.stats_after]
      rfl
  case interruption =>
    rintro (_ | calls)
    · rw [Walk.stop_upTo_zero]
      exact hinterruption
    · rw [hafter, h.interruption, Walk.upTo_after, Walk.after_stop]
      rfl

/-- A decoder goes along with the walk by offsets call by call. -/
theorem keepsPace_walkFrom (d : Decoder) (bytes : Bytes) (start : Nat) (h : d.IsAt bytes start) :
    d.KeepsPace (walkFrom bytes start) := by
  have hlands := h.lands
  fun_induction walkFrom bytes start generalizing d with
  | case1 start stop hlanding =>
    rw [hlanding] at hlands
    exact .of_follows h.uninterrupted hlands
  | case2 start visit hlanding =>
    rw [hlanding] at hlands
    refine .after h.uninterrupted hlands rfl (.of_follows ?_ (.of_finished ?_ ?_))
    · cases visit.content <;> exact h.uninterrupted
    · cases visit.content <;> rfl
    · cases visit.content <;> exact h.uninterrupted
  | case3 start visit hlanding ih =>
    rw [hlanding] at hlands
    have hnext := (h.advance visit.length).count visit.content
    exact .after h.uninterrupted hlands rfl (ih _ hnext hnext.lands)

theorem keepsPace_ofBatch (bytes : Bytes) : (ofBatch bytes).KeepsPace (walkFrom bytes 0) :=
  keepsPace_walkFrom _ bytes 0 ⟨rfl, rfl, rfl⟩

theorem stats_afterCalls (bytes : Bytes) (calls : Nat) :
    ((ofBatch bytes).afterCalls calls).stats = ((walkFrom bytes 0).upTo calls).stats := by
  rw [(keepsPace_ofBatch bytes).stats]
  simp [ofBatch, DecodeStats.merge]

theorem interruption_afterCalls (bytes : Bytes) (calls : Nat) :
    ((ofBatch bytes).afterCalls calls).interruption =
      ((walkFrom bytes 0).upTo calls).stop.interruption? :=
  (keepsPace_ofBatch bytes).interruption calls

theorem answers_ofBatch (bytes : Bytes) (calls : Nat) :
    (ofBatch bytes).answers calls =
      (List.range calls).map fun call ↦ (walkFrom bytes 0).events[call]? :=
  (keepsPace_ofBatch bytes).answers calls

end Decoder

end Regroup.Netlink
