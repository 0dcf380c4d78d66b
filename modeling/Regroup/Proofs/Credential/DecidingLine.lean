import Mathlib.Control.Monad.Basic
import Regroup.Proofs.Credential.Completion

/-!
# The line that decides

A status record is completed from one line: the first that starts with the label and goes on with
white space, or with nothing. If its first two values are numbers the second one is the missing
identity, and otherwise the record is malformed, whatever a later line may hold. So an event is
completed in exactly one way or fails for exactly one reason, and no other line of the record has a
say in which.
-/

namespace Regroup

namespace Text

variable {α β : Type} [BEq α]

/-- Where nothing is found on an empty line, it does not matter whether a last one is counted. -/
theorem findSome?_linesAt (feed : α) (xs : List α) (find : List α → Option β)
    (hempty : find [] = none) :
    (linesAt feed xs).findSome? find = (xs.splitOn feed).findSome? find := by
  unfold linesAt
  dsimp only
  split
  · rename_i hlast
    obtain ⟨last, hgetLast⟩ := Option.isSome_iff_exists.1
      (List.getLast?_isSome.2 (List.splitOn_ne_nil feed xs))
    obtain ⟨front, hfront⟩ := List.getLast?_eq_some_iff.1 hgetLast
    have hnil : last = [] := by simpa [hgetLast] using hlast
    simp [hfront, hnil, hempty]
  · rfl

theorem feed_notMem_of_mem_splitOn [LawfulBEq α] (feed : α) (xs line : List α)
    (h : line ∈ xs.splitOn feed) : feed ∉ line := by
  induction xs generalizing line with
  | nil => simp_all
  | cons x xs ih =>
    obtain ⟨first, rest, hrest⟩ := List.exists_cons_of_ne_nil (List.splitOn_ne_nil feed xs)
    rw [hrest] at ih
    rw [List.splitOn_cons_eq_if_modifyHead, hrest] at h
    by_cases hfeed : x = feed
    · simp only [hfeed, beq_self_eq_true, if_true, List.mem_cons] at h
      rcases h with rfl | h
      · simp
      · exact ih line (List.mem_cons.2 h)
    · have hne : (x == feed) = false := by simpa using hfeed
      simp only [hne, Bool.false_eq_true, if_false, List.modifyHead_cons, List.mem_cons] at h
      rcases h with rfl | h
      · have hfirst := ih first List.mem_cons_self
        simp [Ne.symm hfeed, hfirst]
      · exact ih line (List.mem_cons_of_mem _ h)

end Text

namespace Credential

/-! ## Labels and values -/

/-- The line is the label and the values, which are empty or start with a space, a tab, a form feed
or a carriage return. -/
structure IsLabelled (label line values : Bytes) : Prop where
  line_eq : line = label ++ values
  ends : values = [] ∨ ∃ b rest, values = b :: rest ∧ b ∈ [32, 9, 12, 13]

theorem isLabelEnd_iff (b : UInt8) (hfeed : b ≠ 10) :
    isLabelEnd b = true ↔ b ∈ ([32, 9, 12, 13] : List UInt8) := by
  simp [isLabelEnd, hfeed, or_assoc]

/-- On a line, which no line feed is part of, a label ends where white space starts. -/
theorem labelled?_eq_some_iff (label line values : Bytes) (hline : 10 ∉ line) :
    labelled? label line = some values ↔ IsLabelled label line values := by
  unfold labelled?
  dsimp only
  constructor
  · intro h
    split at h
    · rename_i hprefix
      obtain ⟨found, rfl⟩ := List.isPrefixOf_iff_prefix.1 hprefix
      rw [List.drop_left] at h
      split at h
      · rename_i hends
        obtain rfl := Option.some.inj h
        refine ⟨rfl, ?_⟩
        cases found with
        | nil => exact .inl rfl
        | cons b rest =>
          have hfeed : b ≠ 10 := by
            rintro rfl
            simp at hline
          exact .inr ⟨b, rest, rfl, (isLabelEnd_iff b hfeed).1 (by simpa using hends)⟩
      · cases h
    · cases h
  · rintro ⟨rfl, hends⟩
    have hprefix : label.isPrefixOf (label ++ values) = true :=
      List.isPrefixOf_iff_prefix.2 (List.prefix_append _ _)
    rw [if_pos hprefix, List.drop_left]
    rcases hends with rfl | ⟨b, rest, rfl, hb⟩
    · rfl
    · have hfeed : b ≠ 10 := by
        rintro rfl
        simp at hb
      rw [if_pos]
      simpa using (isLabelEnd_iff b hfeed).2 hb

/-- The first line with the label, and the values on it. -/
def IsDecidingLine (label record line values : Bytes) : Prop :=
  ∃ before after, record.splitOn 10 = before ++ line :: after ∧ IsLabelled label line values ∧
    ∀ earlier ∈ before, ∀ others, ¬ IsLabelled label earlier others

theorem labelled?_eq_none_iff (label line : Bytes) (hline : 10 ∉ line) :
    labelled? label line = none ↔ ∀ values, ¬ IsLabelled label line values := by
  simp only [Option.eq_none_iff_forall_ne_some, ne_eq, labelled?_eq_some_iff label line _ hline]

theorem labelledLine?_eq_some_iff (label record line values : Bytes) (hlabel : label ≠ []) :
    labelledLine? label record = some (line, values) ↔
      IsDecidingLine label record line values := by
  have hempty : (labelled? label []).map (fun values ↦ (([] : Bytes), values)) = none := by
    obtain ⟨b, bs, rfl⟩ := List.exists_cons_of_ne_nil hlabel
    rfl
  have hlines : ∀ line ∈ record.splitOn 10, 10 ∉ line :=
    fun line hline ↦ Text.feed_notMem_of_mem_splitOn 10 record line hline
  unfold labelledLine? IsDecidingLine
  rw [Text.findSome?_linesAt 10 record _ hempty, List.findSome?_eq_some_iff]
  constructor
  · rintro ⟨before, found, after, hsplit, hfound, hbefore⟩
    obtain ⟨found', hlabelled, heq⟩ := Option.map_eq_some_iff.1 hfound
    obtain ⟨rfl, rfl⟩ := Prod.mk.inj heq
    rw [hsplit] at hlines
    refine ⟨before, after, hsplit, ?_, fun earlier hearlier ↦ ?_⟩
    · exact (labelled?_eq_some_iff label found found' (hlines found (by simp))).1 hlabelled
    · have hnone := Option.map_eq_none_iff.1 (hbefore earlier hearlier)
      exact (labelled?_eq_none_iff label earlier (hlines earlier (by simp [hearlier]))).1 hnone
  · rintro ⟨before, after, hsplit, hlabelled, hbefore⟩
    rw [hsplit] at hlines
    refine ⟨before, line, after, hsplit, ?_, fun earlier hearlier ↦ ?_⟩
    · rw [(labelled?_eq_some_iff label line values (hlines line (by simp))).2 hlabelled]
      rfl
    · have hnone := (labelled?_eq_none_iff label earlier (hlines earlier (by simp [hearlier]))).2
        (hbefore earlier hearlier)
      rw [hnone]
      rfl

theorem labelledLine?_eq_none_iff (label record : Bytes) (hlabel : label ≠ []) :
    labelledLine? label record = none ↔
      ∀ line ∈ record.splitOn 10, ∀ values, ¬ IsLabelled label line values := by
  have hempty : (labelled? label []).map (fun values ↦ (([] : Bytes), values)) = none := by
    obtain ⟨b, bs, rfl⟩ := List.exists_cons_of_ne_nil hlabel
    rfl
  unfold labelledLine?
  rw [Text.findSome?_linesAt 10 record _ hempty, List.findSome?_eq_none_iff]
  refine forall₂_congr fun line hline ↦ ?_
  rw [Option.map_eq_none_iff]
  exact labelled?_eq_none_iff label line (Text.feed_notMem_of_mem_splitOn 10 record line hline)

/-- Both of the first two values are numbers, and the given one is the second. -/
def IsSecondValue (values : Bytes) (number : UInt32) : Prop :=
  ∃ first second rest real, Text.fields (Text.decodeLossy values) = first :: second :: rest ∧
    Text.readUInt32? first = some real ∧ Text.readUInt32? second = some number

theorem effectiveNumber?_eq_some_iff (values : Bytes) (number : UInt32) :
    effectiveNumber? values = some number ↔ IsSecondValue values number := by
  unfold effectiveNumber? IsSecondValue
  split
  · rename_i first second rest hfields
    rw [hfields]
    constructor
    · intro h
      obtain ⟨real, hreal, hsecond⟩ := Option.bind_eq_some_iff.1 h
      exact ⟨first, second, rest, real, rfl, hreal, hsecond⟩
    · rintro ⟨_, _, _, real, heq, hreal, hsecond⟩
      cases heq
      rw [hreal]
      exact hsecond
  · rename_i hfields
    simp only [reduceCtorEq, false_iff]
    rintro ⟨first, second, rest, real, heq, -⟩
    exact hfields first second rest heq

/-! ## Outcomes -/

theorem lookUp_eq_ok_iff (label path : String) (record : Bytes) (number : UInt32)
    (hlabel : Text.encode label ≠ []) :
    lookUp label path record = .ok number ↔
      ∃ line values, IsDecidingLine (Text.encode label) record line values ∧
        IsSecondValue values number := by
  simp only [← labelledLine?_eq_some_iff _ _ _ _ hlabel, ← effectiveNumber?_eq_some_iff, lookUp]
  constructor
  · intro h
    split at h
    · cases h
    rename_i line values hline
    split at h
    · rename_i found hfound
      obtain rfl := Except.ok.inj h
      exact ⟨line, values, hline, hfound⟩
    · cases h
  · rintro ⟨line, values, hline, hnumber⟩
    simp only [hline, hnumber]

theorem lookUp_eq_malformed_iff (label path : String) (record : Bytes) (shown : String)
    (hlabel : Text.encode label ≠ []) :
    lookUp label path record = .error (.malformed label path shown) ↔
      ∃ line values, IsDecidingLine (Text.encode label) record line values ∧
        (∀ number, ¬ IsSecondValue values number) ∧
        shown = String.ofList (Text.decodeLossy line) := by
  simp only [← labelledLine?_eq_some_iff _ _ _ _ hlabel, ← effectiveNumber?_eq_some_iff, lookUp,
    ← ne_eq, ← Option.eq_none_iff_forall_ne_some]
  constructor
  · intro h
    split at h
    · cases h
    rename_i line values hline
    split at h
    · cases h
    · rename_i hnone
      exact ⟨line, values, hline, hnone, (ResolveError.malformed.inj (Except.error.inj h)).2.2.symm⟩
  · rintro ⟨line, values, hline, hnone, rfl⟩
    simp only [hline, hnone]

theorem lookUp_eq_missing_iff (label path : String) (record : Bytes)
    (hlabel : Text.encode label ≠ []) :
    lookUp label path record = .error (.fieldMissing label path) ↔
      ∀ line ∈ record.splitOn 10, ∀ values, ¬ IsLabelled (Text.encode label) line values := by
  rw [← labelledLine?_eq_none_iff _ record hlabel, lookUp]
  split
  · rename_i hline
    simp [hline]
  · rename_i line values hline
    cases hnumber : effectiveNumber? values <;> simp [hline]

theorem lookUp_failures (label path : String) (record : Bytes) (cause : ResolveError)
    (h : lookUp label path record = .error cause) :
    (∃ shown, cause = .malformed label path shown) ∨ cause = .fieldMissing label path := by
  unfold lookUp at h
  split at h
  · exact .inr (Except.error.inj h).symm
  · split at h
    · cases h
    · exact .inl ⟨_, (Except.error.inj h).symm⟩

/-- The reported number keeps its place and the other one takes the place that is left. -/
def Event.completedBy (event : Event) (number : UInt32) : Resolved :=
  match event.kind with
  | .user => ⟨event.process, event.effective, number⟩
  | .group => ⟨event.process, number, event.effective⟩

theorem Kind.encode_complementLabel_ne_nil (kind : Kind) :
    Text.encode kind.complementLabel ≠ [] := by
  cases kind <;> decide

theorem readStatus_eq_error_iff (tree : FileTree) (path : String) (cause : ResolveError) :
    readStatus tree path = .error cause ↔
      ∃ reason, tree.openForReading path = .error reason ∧
        cause = .statusUnavailable path reason := by
  unfold readStatus
  cases tree.openForReading path with
  | error reason => simp [eq_comm]
  | ok entry => cases entry <;> simp

theorem resolve_eq_error_of_unread (event : Event) (tree : FileTree) (processRoot : String)
    (cause : ResolveError)
    (hread : readStatus tree (statusPath processRoot event.process) = .error cause) :
    event.resolve tree processRoot = .error cause := by
  simp only [Event.resolve, hread, bind, Except.bind]

theorem resolve_eq_map_lookUp (event : Event) (tree : FileTree) (processRoot : String)
    (record : Bytes)
    (hread : readStatus tree (statusPath processRoot event.process) = .ok record) :
    event.resolve tree processRoot =
      (lookUp event.kind.complementLabel (statusPath processRoot event.process) record).map
        event.completedBy := by
  simp only [Event.resolve, hread, bind, Except.bind, Except.map, Event.completedBy]
  split <;> rfl

/-- What the record has to be like for each outcome of completing an event. -/
structure IsSettledByLine (tree : FileTree) (event : Event) (path label : String)
    (result : Except ResolveError Resolved) : Prop where
  completed : ∀ credential, result = .ok credential ↔
    ∃ record line values number, readStatus tree path = .ok record ∧
      IsDecidingLine (Text.encode label) record line values ∧ IsSecondValue values number ∧
      credential = event.completedBy number
  malformed : ∀ shown, result = .error (.malformed label path shown) ↔
    ∃ record line values, readStatus tree path = .ok record ∧
      IsDecidingLine (Text.encode label) record line values ∧
      (∀ number, ¬ IsSecondValue values number) ∧ shown = String.ofList (Text.decodeLossy line)
  missing : result = .error (.fieldMissing label path) ↔
    ∃ record, readStatus tree path = .ok record ∧
      ∀ line ∈ record.splitOn 10, ∀ values, ¬ IsLabelled (Text.encode label) line values
  unavailable : ∀ reason, result = .error (.statusUnavailable path reason) ↔
    tree.openForReading path = .error reason
  failures : ∀ cause, result = .error cause →
    (∃ shown, cause = .malformed label path shown) ∨ cause = .fieldMissing label path ∨
      ∃ reason, cause = .statusUnavailable path reason

theorem isSettledByLine_of_unopened (event : Event) (tree : FileTree) (path label : String)
    (reason : SystemError) (hopen : tree.openForReading path = .error reason) :
    IsSettledByLine tree event path label (.error (.statusUnavailable path reason)) := by
  have hread : readStatus tree path = .error (.statusUnavailable path reason) :=
    (readStatus_eq_error_iff _ _ _).2 ⟨reason, hopen, rfl⟩
  constructor <;> simp [hread, hopen]

theorem isSettledByLine_of_read (event : Event) (tree : FileTree) (path label : String)
    (record : Bytes) (hread : readStatus tree path = .ok record)
    (hlabel : Text.encode label ≠ []) :
    IsSettledByLine tree event path label
      ((lookUp label path record).map event.completedBy) := by
  have hopen : ∀ reason, tree.openForReading path ≠ .error reason := by
    intro reason hopen
    have hunread := (readStatus_eq_error_iff tree path _).2 ⟨reason, hopen, rfl⟩
    rw [hread] at hunread
    cases hunread
  refine ⟨fun credential ↦ ?_, fun shown ↦ ?_, ?_, fun reason ↦ ?_, fun cause h ↦ ?_⟩
  · simp only [map_eq_ok_iff, lookUp_eq_ok_iff _ _ _ _ hlabel, hread, Except.ok.injEq]
    constructor
    · rintro ⟨number, ⟨line, values, hline, hnumber⟩, rfl⟩
      exact ⟨record, line, values, number, rfl, hline, hnumber, rfl⟩
    · rintro ⟨_, line, values, number, rfl, hline, hnumber, rfl⟩
      exact ⟨number, ⟨line, values, hline, hnumber⟩, rfl⟩
  · simp only [map_eq_error_iff, lookUp_eq_malformed_iff _ _ _ _ hlabel, hread, Except.ok.injEq]
    constructor
    · rintro ⟨line, values, hline, hnone, rfl⟩
      exact ⟨record, line, values, rfl, hline, hnone, rfl⟩
    · rintro ⟨_, line, values, rfl, hline, hnone, rfl⟩
      exact ⟨line, values, hline, hnone, rfl⟩
  · simp only [map_eq_error_iff, lookUp_eq_missing_iff _ _ _ hlabel, hread, Except.ok.injEq,
      exists_eq_left']
  · rw [map_eq_error_iff]
    refine iff_of_false (fun h ↦ ?_) (hopen reason)
    rcases lookUp_failures label path record _ h with ⟨shown, hshown⟩ | hmissing
    · cases hshown
    · cases hmissing
  · rcases lookUp_failures label path record cause ((map_eq_error_iff _ _ _).1 h) with
      hmalformed | hmissing
    · exact .inl hmalformed
    · exact .inr (.inl hmissing)

theorem isSettledByLine_resolve (event : Event) (tree : FileTree) (processRoot : String) :
    IsSettledByLine tree event (statusPath processRoot event.process) event.kind.complementLabel
      (event.resolve tree processRoot) := by
  cases hread : readStatus tree (statusPath processRoot event.process) with
  | error cause =>
    obtain ⟨reason, hopen, rfl⟩ := (readStatus_eq_error_iff _ _ cause).1 hread
    rw [resolve_eq_error_of_unread event tree processRoot _ hread]
    exact isSettledByLine_of_unopened event tree _ _ reason hopen
  | ok record =>
    rw [resolve_eq_map_lookUp event tree processRoot record hread]
    exact isSettledByLine_of_read event tree _ _ record hread
      event.kind.encode_complementLabel_ne_nil

/-- Records with the same deciding line, or without one, are not told apart. -/
theorem lookUp_congr (label path : String) (record other : Bytes)
    (hlabel : Text.encode label ≠ [])
    (h : ∀ line values, IsDecidingLine (Text.encode label) record line values ↔
      IsDecidingLine (Text.encode label) other line values) :
    lookUp label path record = lookUp label path other := by
  have hline : labelledLine? (Text.encode label) record =
      labelledLine? (Text.encode label) other := by
    apply Option.ext
    rintro ⟨line, values⟩
    rw [labelledLine?_eq_some_iff _ _ _ _ hlabel, labelledLine?_eq_some_iff _ _ _ _ hlabel]
    exact h line values
  rw [lookUp, lookUp, hline]

/-- Completing an event asks for the group of a user event and for the user of a group event, and
the line that decides settles what comes of it. What the other lines hold makes no difference. -/
theorem resolve_settled_by_line (event : Event) (tree : FileTree) (processRoot : String) :
    let path := statusPath processRoot event.process
    let label := match event.kind with
      | .user => "Gid:"
      | .group => "Uid:"
    IsSettledByLine tree event path label (event.resolve tree processRoot) ∧
      ∀ (other : FileTree) (record changed : Bytes), readStatus tree path = .ok record →
        readStatus other path = .ok changed →
        (∀ line values, IsDecidingLine (Text.encode label) record line values ↔
          IsDecidingLine (Text.encode label) changed line values) →
        event.resolve other processRoot = event.resolve tree processRoot := by
  intro path label
  have hlabel : label = event.kind.complementLabel := rfl
  rw [hlabel]
  refine ⟨isSettledByLine_resolve event tree processRoot, ?_⟩
  intro other record changed hread hchanged hlines
  rw [resolve_eq_map_lookUp event tree processRoot record hread,
    resolve_eq_map_lookUp event other processRoot changed hchanged,
    lookUp_congr _ _ record changed event.kind.encode_complementLabel_ne_nil hlines]

/-- A name that is no text and a later line with the same label do not get in the way. -/
theorem resolve_settled_by_line_below_raw_name :
    let record : Bytes := Text.encode "Name:\t" ++ [255, 254] ++
      Text.encode "\nUid:\t1\t2\nGid:\t3\t4\nGid:\tx\n"
    let tree : FileTree := {
      entries := [(["proc"], .directory), (["proc", "5"], .directory),
        (["proc", "5", "status"], .file record)]
      workingDirectory := [] }
    IsDecidingLine (Text.encode "Gid:") record (Text.encode "Gid:\t3\t4") (Text.encode "\t3\t4") ∧
      Event.resolve ⟨5, 5, .user, 1, 7⟩ tree "/proc" = .ok ⟨5, 7, 4⟩ := by
  intro record tree
  have hread : readStatus tree "/proc/5/status" = .ok record := by decide +kernel
  have hline : IsDecidingLine (Text.encode "Gid:") record (Text.encode "Gid:\t3\t4")
      (Text.encode "\t3\t4") :=
    (labelledLine?_eq_some_iff _ _ _ _ (by decide)).1 (by decide +kernel)
  have hnumber : IsSecondValue (Text.encode "\t3\t4") 4 :=
    (effectiveNumber?_eq_some_iff _ _).1 (by decide +kernel)
  have hsettled := (resolve_settled_by_line ⟨5, 5, .user, 1, 7⟩ tree "/proc").1
  exact ⟨hline, (hsettled.completed ⟨5, 7, 4⟩).2 ⟨record, _, _, 4, hread, hline, hnumber, rfl⟩⟩

end Credential

end Regroup
