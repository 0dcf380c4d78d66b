import Mathlib.Data.List.Forall2
import Regroup.Pipeline
import Regroup.Proofs.Engine.Writes

/-!
# What a failed request leaves behind

A request follows its destinations in turn and stops at the first that fails. That one is not
written to and neither are those behind it, but the process has been moved to all that come before
it. So a failed request leaves every file as it was if it selects a single destination, and a rule
with continuations may fail after the process has left its group.
-/

namespace Regroup

open Credential (Resolved)
open FileTree (SameShape)

namespace FileTree

/-- Opening a file for writing asks for the shape of the tree only. -/
theorem SameShape.openForWriting_eq {t u : FileTree} (h : SameShape t u) (path : String) :
    t.openForWriting path = u.openForWriting path := by
  have hpath : t.substituted path = u.substituted path := by
    simp only [substituted, h.substitutes]
  unfold openForWriting
  rw [hpath, h.locate_eq]
  cases u.locate (u.substituted path) with
  | error cause => rfl
  | ok location =>
    have hkind := h.kind location
    simp only [bind, Except.bind]
    revert hkind
    rcases t.entry? location with _ | (_ | _) <;> rcases u.entry? location with _ | (_ | _) <;>
      simp [Entry.isDirectory]

end FileTree

/-- Writes the number of a process to several files in turn. -/
def Cgroup.record (process : Int32) (locations : List Location) (tree : FileTree) : FileTree :=
  locations.foldl (fun tree location ↦ tree.overwrite location (processText process)) tree

namespace Engine

/-- The process file of the rule's destination can be written to, and this is where it is. -/
def IsOpenAt (tree : FileTree) (root : String) (rule : Rule) (location : Location) : Prop :=
  tree.openForWriting (Cgroup.processFile (Path.join root rule.destination)) = .ok location

theorem moveTo_of_failure (root : String) (process : Int32) (rule : Rule) (tree : FileTree)
    (cause : ClassifyError) (h : (moveTo root process rule tree).result = .error cause) :
    (moveTo root process rule tree).tree = tree := by
  unfold moveTo at h ⊢
  dsimp only at h ⊢
  by_cases hdirectory : tree.isDirectory (Path.join root rule.destination) = true
  · rw [if_pos hdirectory] at h ⊢
    cases hattach : Cgroup.attach tree (Path.join root rule.destination) process with
    | error cause => rfl
    | ok after =>
      rw [hattach] at h
      cases h
  · rw [if_neg hdirectory]

theorem moveTo_of_success (root : String) (process : Int32) (rule : Rule) (tree : FileTree)
    (h : (moveTo root process rule tree).result = .ok ()) :
    ∃ location, IsOpenAt tree root rule location ∧
      (moveTo root process rule tree).tree = Cgroup.record process [location] tree := by
  unfold moveTo at h ⊢
  dsimp only at h ⊢
  by_cases hdirectory : tree.isDirectory (Path.join root rule.destination) = true
  · rw [if_pos hdirectory] at h ⊢
    cases hattach : Cgroup.attach tree (Path.join root rule.destination) process with
    | error cause =>
      rw [hattach] at h
      cases h
    | ok after =>
      obtain ⟨location, hopen, hafter⟩ := (bind_eq_ok_iff _ _ _).1 hattach
      exact ⟨location, hopen, (Except.ok.inj hafter).symm⟩
  · rw [if_neg hdirectory] at h
    cases h

/-- The destinations of `done` have been written to, and that of the next rule is the first that
fails. -/
structure StopsBehind (root : String) (process : Int32) (tree after : FileTree)
    (cause : ClassifyError) (done rest : RuleSet) : Prop where
  written : ∃ locations, List.Forall₂ (IsOpenAt tree root) done locations ∧
    after = Cgroup.record process locations tree
  failing : ∃ rule later, rest = rule :: later ∧
    (moveTo root process rule after).result = .error cause

theorem moveAlong_of_failure (root : String) (process : Int32) (rules : RuleSet) (tree : FileTree)
    (cause : ClassifyError) (h : (moveAlong root process rules tree).result = .error cause) :
    ∃ done rest, rules = done ++ rest ∧
      StopsBehind root process tree (moveAlong root process rules tree).tree cause done rest := by
  induction rules generalizing tree with
  | nil => cases h
  | cons rule rules ih =>
    rw [moveAlong_cons] at h ⊢
    dsimp only at h ⊢
    cases hfirst : (moveTo root process rule tree).result with
    | error found =>
      simp only [hfirst] at h ⊢
      obtain rfl := Except.error.inj h
      have htree := moveTo_of_failure root process rule tree found hfirst
      rw [htree]
      exact ⟨[], rule :: rules, rfl, ⟨[], .nil, rfl⟩, rule, rules, rfl, hfirst⟩
    | ok =>
      simp only [hfirst] at h ⊢
      obtain ⟨location, hopen, htree⟩ := moveTo_of_success root process rule tree hfirst
      obtain ⟨done, rest, hrules, ⟨locations, hlocations, hafter⟩, hfailing⟩ := ih _ h
      have hshape : SameShape tree (moveTo root process rule tree).tree := by
        rw [htree]
        exact tree.sameShape_overwrite location _
      refine ⟨rule :: done, rest, by rw [hrules]; rfl, ⟨location :: locations, ?_, ?_⟩, hfailing⟩
      · refine .cons hopen (hlocations.imp fun rule location hlocation ↦ ?_)
        exact (hshape.openForWriting_eq _).trans hlocation
      · rw [hafter, htree]
        rfl

/-- The rules whose destinations a request sets out to follow, none where the engine has not been
started or has no rules to judge by. -/
def followed (engine : Engine) (tree : FileTree) (request : ClassifyRequest) : RuleSet :=
  match engine.root, (engine.rulesFor tree request.useCache).1 with
  | some _, .ok rules => engine.selectionFor rules request
  | _, _ => []

/-- A request that fails has either followed no destination or stopped at one of them. -/
theorem move_of_failure (engine : Engine) (tree : FileTree) (request : ClassifyRequest)
    (cause : ClassifyError) (h : (engine.move tree request).result = .error cause) :
    (engine.move tree request).tree = tree ∨
      ∃ root done rest, engine.root = some root ∧ engine.followed tree request = done ++ rest ∧
        StopsBehind root request.process tree (engine.move tree request).tree cause done rest := by
  unfold move at h ⊢
  unfold followed
  cases hroot : engine.root with
  | none => exact .inl rfl
  | some root =>
    simp only [hroot] at h ⊢
    rcases hrules : engine.rulesFor tree request.useCache with ⟨_ | rules, records⟩
    · exact .inl rfl
    · simp only [hrules, moveBy] at h ⊢
      split at h
      · cases h
      · rename_i hselected
        obtain ⟨done, rest, hsplit, hstops⟩ :=
          moveAlong_of_failure root request.process _ tree cause h
        exact .inr ⟨root, done, rest, rfl, hsplit, hstops⟩

end Engine

/-! ## Failed requests -/

/-- A failure that is reported leaves the files as they were unless the request had already written
to destinations before the one that failed, and then it leaves what was written there. A request
with no more than one destination never leaves anything. -/
theorem failed_dispatch_keeps_earlier_moves (engine : Engine) (tree : FileTree)
    (credential : Resolved) (useCache : Bool) (cause : ClassifyError)
    (h : (dispatch engine tree credential useCache).result = .error cause) :
    let followed := engine.followed tree (credential.request useCache)
    let after := (dispatch engine tree credential useCache).tree
    (after = tree ∨
      ∃ root first done rest, engine.root = some root ∧ followed = first :: done ++ rest ∧
        Engine.StopsBehind root credential.process tree after cause (first :: done) rest) ∧
      (followed.length ≤ 1 → after = tree) := by
  intro followed after
  have hmove : after = tree ∨
      ∃ root first done rest, engine.root = some root ∧ followed = first :: done ++ rest ∧
        Engine.StopsBehind root credential.process tree after cause (first :: done) rest := by
    rcases engine.move_of_failure tree (credential.request useCache) cause h with
      hsame | ⟨root, done, rest, hroot, hsplit, hstops⟩
    · exact .inl hsame
    · cases done with
      | nil =>
        obtain ⟨locations, hlocations, hafter⟩ := hstops.written
        cases hlocations
        exact .inl hafter
      | cons first done => exact .inr ⟨root, first, done, rest, hroot, hsplit, hstops⟩
  refine ⟨hmove, fun hlength ↦ ?_⟩
  rcases hmove with hsame | ⟨root, first, done, rest, -, hsplit, hstops⟩
  · exact hsame
  · obtain ⟨rule, later, rfl, -⟩ := hstops.failing
    simp only [hsplit, List.length_append, List.length_cons] at hlength
    omega

namespace Engine

/-- A tree with one group and a rule that names another one besides. -/
def treeWithOneGroup : FileTree where
  entries := [(["cg"], .directory), (["cg", "g"], .directory),
    (["cg", "g", "cgroup.procs"], .file []),
    (["rules"], .file (Text.encode "* * g\n% * missing\n"))]
  workingDirectory := []

/-- The engine that starts and loads its rules there. -/
def ofTreeWithOneGroup : Engine :=
  let engine : Engine :=
    { rulesFile := "/rules", configuredRoot := some "/cg", identities := ⟨[], []⟩ }
  ((engine.init treeWithOneGroup).state.load treeWithOneGroup).state

end Engine

open Engine (treeWithOneGroup ofTreeWithOneGroup)

theorem failed_dispatch_keeps_move_to_group :
    let answer := dispatch ofTreeWithOneGroup treeWithOneGroup ⟨9, 1, 1⟩ true
    answer.result = .error (.destinationMissing "/cg/missing") ∧
      ∃ root first done rest, ofTreeWithOneGroup.root = some root ∧
        ofTreeWithOneGroup.followed treeWithOneGroup ⟨1, 1, 9, true⟩ = first :: done ++ rest ∧
        Engine.StopsBehind root 9 treeWithOneGroup answer.tree (.destinationMissing "/cg/missing")
          (first :: done) rest := by
  intro answer
  have hfailure : answer.result = .error (.destinationMissing "/cg/missing") := by decide +kernel
  have hmoved : answer.tree ≠ treeWithOneGroup := by decide +kernel
  have hkept := failed_dispatch_keeps_earlier_moves ofTreeWithOneGroup treeWithOneGroup ⟨9, 1, 1⟩
    true _ hfailure
  exact ⟨hfailure, hkept.1.resolve_left hmoved⟩

/-- A reported failure does not mean that the process is where it was. -/
theorem failed_dispatch_changes_files :
    ¬ ∀ (engine : Engine) (tree : FileTree) (credential : Resolved) (useCache : Bool)
      (cause : ClassifyError), (dispatch engine tree credential useCache).result = .error cause →
      ∀ location, (dispatch engine tree credential useCache).tree.entry? location =
        tree.entry? location := by
  intro h
  have hfailure : (dispatch ofTreeWithOneGroup treeWithOneGroup ⟨9, 1, 1⟩ true).result =
      .error (.destinationMissing "/cg/missing") := by decide +kernel
  have hmoved : (dispatch ofTreeWithOneGroup treeWithOneGroup ⟨9, 1, 1⟩ true).tree.entry?
      ["cg", "g", "cgroup.procs"] ≠ treeWithOneGroup.entry? ["cg", "g", "cgroup.procs"] := by
    decide +kernel
  exact hmoved (h _ _ _ _ _ hfailure _)

end Regroup
