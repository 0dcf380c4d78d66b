import Regroup.Cgroup
import Regroup.Credential.Status
import Regroup.Proofs.FileTree

/-!
# Where the missing identity comes from

A completed event keeps the number that the kernel reported, and the other one is the second value
on the labelled line of the status record. The status record is a file called `status`, so moving
processes, which writes to files called `cgroup.procs`, never changes what an event is completed to.
-/

namespace Regroup

open FileTree (ChangedWithin IsName)

/-- A file that the members of a control group are listed in. -/
def Cgroup.IsProcessFile (location : Location) : Prop :=
  location.getLast? = some "cgroup.procs"

theorem Cgroup.isProcessFile_of_locate (tree : FileTree) (path : String) (location : Location)
    (h : tree.locate (processFile path) = .ok location) : IsProcessFile location :=
  tree.getLast?_of_locate_join path "cgroup.procs" location (by decide) (by decide) h

namespace Credential

/-- The number is the second value on the first line with the label. -/
def SecondValue (label : String) (record : Bytes) (number : UInt32) : Prop :=
  ∃ line values first second rest,
    labelledLine? (Text.encode label) record = some (line, values) ∧
    Text.fields (Text.decodeLossy values) = first :: second :: rest ∧
    Text.readUInt32? second = some number

theorem secondValue_of_lookUp (label path : String) (record : Bytes) (number : UInt32)
    (h : lookUp label path record = .ok number) : SecondValue label record number := by
  unfold lookUp at h
  split at h
  · cases h
  rename_i line values hline
  split at h
  · rename_i found hfound
    obtain rfl := Except.ok.inj h
    unfold effectiveNumber? at hfound
    split at hfound
    · rename_i first second rest hfields
      obtain ⟨_, -, hsecond⟩ := Option.bind_eq_some_iff.1 hfound
      exact ⟨line, values, first, second, rest, hline, hfields, hsecond⟩
    · cases hfound
  · cases h

/-- What completing an event adds to it, and where that is read. -/
structure IsCompletion (tree : FileTree) (processRoot : String) (event : Event)
    (credential : Resolved) : Prop where
  process : credential.process = event.process
  identities : ∃ record, readStatus tree (statusPath processRoot event.process) = .ok record ∧
    match event.kind with
    | .user => credential.user = event.effective ∧ SecondValue "Gid:" record credential.group
    | .group => credential.group = event.effective ∧ SecondValue "Uid:" record credential.user

theorem isCompletion_of_resolve (tree : FileTree) (processRoot : String) (event : Event)
    (credential : Resolved) (h : event.resolve tree processRoot = .ok credential) :
    IsCompletion tree processRoot event credential := by
  obtain ⟨record, hread, hrest⟩ := (bind_eq_ok_iff _ _ _).1 h
  obtain ⟨number, hlookup, hcredential⟩ := (bind_eq_ok_iff _ _ _).1 hrest
  have hvalue := secondValue_of_lookUp _ _ record number hlookup
  obtain rfl := Except.ok.inj hcredential
  cases hkind : event.kind with
  | user =>
    rw [hkind] at hvalue
    exact ⟨rfl, record, hread, by rw [hkind]; exact ⟨rfl, hvalue⟩⟩
  | group =>
    rw [hkind] at hvalue
    exact ⟨rfl, record, hread, by rw [hkind]; exact ⟨rfl, hvalue⟩⟩

theorem readStatus_eq (t u : FileTree) (processRoot : String) (process : Int32)
    (hlinks : t.IsLinkFree) (h : ChangedWithin Cgroup.IsProcessFile t u) :
    readStatus u (statusPath processRoot process) =
      readStatus t (statusPath processRoot process) := by
  unfold readStatus FileTree.openForReading
  rw [hlinks.substituted_eq, (hlinks.of_sameShape h.toSameShape).substituted_eq,
    ← h.toSameShape.locate_eq]
  cases hlocate : t.locate (statusPath processRoot process) with
  | error cause => rfl
  | ok location =>
    have hlast := t.getLast?_of_locate_join _ "status" location (by decide) (by decide) hlocate
    have hnot : ¬ Cgroup.IsProcessFile location := by
      simp [Cgroup.IsProcessFile, hlast]
    simp only [bind, Except.bind, h.unchanged location hnot]

/-- Writing to process files never changes what an event is completed to. -/
theorem resolve_eq (t u : FileTree) (processRoot : String) (event : Event)
    (hlinks : t.IsLinkFree) (h : ChangedWithin Cgroup.IsProcessFile t u) :
    event.resolve u processRoot = event.resolve t processRoot := by
  simp only [Event.resolve, readStatus_eq t u processRoot event.process hlinks h]

end Credential

end Regroup
