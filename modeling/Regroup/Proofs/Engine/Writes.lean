import Regroup.Engine
import Regroup.Proofs.FileTree

/-!
# What a request may write to

A request that selects rules writes to the process files of their destinations and to nothing else,
whether it succeeds, fails at the first destination or fails further along. This holds of an engine
in any state, also of one whose rules were never read from a text.
-/

namespace Regroup

open FileTree (ChangedWithin SameShape)

/-- Moving a process to a group writes to the file that the group's process file leads to. -/
theorem Cgroup.attach_eq_ok (tree after : FileTree) (path : String) (process : Int32)
    (hlinks : tree.IsLinkFree) (h : attach tree path process = .ok after) :
    ∃ location, tree.locate (processFile path) = .ok location ∧
      after = tree.overwrite location (processText process) := by
  obtain ⟨location, hopen, hafter⟩ := (bind_eq_ok_iff _ _ _).1 h
  unfold FileTree.openForWriting at hopen
  rw [hlinks.substituted_eq] at hopen
  obtain ⟨found, hlocate, hfound⟩ := (bind_eq_ok_iff _ _ _).1 hopen
  split at hfound
  · obtain rfl := Except.ok.inj hfound
    exact ⟨found, hlocate, (Except.ok.inj hafter).symm⟩
  · cases hfound
  · cases hfound

namespace Engine

/-- The location is the process file of the rule's destination, which exists. -/
structure IsDestination (root : String) (tree : FileTree) (rule : Rule) (location : Location) :
    Prop where
  group : ∃ group, tree.locate (Path.join root rule.destination) = .ok group
  file : tree.locate (Cgroup.processFile (Path.join root rule.destination)) = .ok location

/-- Destinations are the same in trees of the same shape. -/
theorem IsDestination.of_sameShape {root : String} {t u : FileTree} {rule : Rule}
    {location : Location} (h : IsDestination root u rule location) (hshape : SameShape t u) :
    IsDestination root t rule location := by
  obtain ⟨group, hgroup⟩ := h.group
  exact ⟨⟨group, (hshape.locate_eq _).trans hgroup⟩, (hshape.locate_eq _).trans h.file⟩

theorem moveTo_changedWithin (root : String) (process : Int32) (rule : Rule) (tree : FileTree)
    (hlinks : tree.IsLinkFree) :
    ChangedWithin (IsDestination root tree rule) tree (moveTo root process rule tree).tree := by
  unfold moveTo
  dsimp only
  split
  · rename_i hdirectory
    obtain ⟨group, hgroup, -⟩ := (tree.isDirectory_iff _).1 hdirectory
    cases hattach : Cgroup.attach tree (Path.join root rule.destination) process with
    | error cause => exact .refl _ tree
    | ok after =>
      obtain ⟨location, hlocate, rfl⟩ := Cgroup.attach_eq_ok tree after _ process hlinks hattach
      refine (ChangedWithin.overwrite tree location _).mono fun other hother ↦ ?_
      subst hother
      exact ⟨⟨group, hgroup⟩, hlocate⟩
  · exact .refl _ tree

-- Comparing the two sides must not look into the first move.
attribute [local irreducible] moveTo in
theorem moveAlong_cons (root : String) (process : Int32) (rule : Rule) (rules : RuleSet)
    (tree : FileTree) : moveAlong root process (rule :: rules) tree =
      let move := moveTo root process rule tree
      match move.result with
      | .error cause => ⟨.error cause, move.tree, move.records⟩
      | .ok _ =>
        let rest := moveAlong root process rules move.tree
        ⟨rest.result, rest.tree, move.records ++ rest.records⟩ :=
  rfl

/-- Destinations further along are followed in a tree of the same shape, so they are those of the
tree that the request started from. -/
theorem moveAlong_changedWithin (root : String) (process : Int32) (rules : RuleSet)
    (tree : FileTree) (hlinks : tree.IsLinkFree) :
    ChangedWithin (fun location ↦ ∃ rule ∈ rules, IsDestination root tree rule location) tree
      (moveAlong root process rules tree).tree := by
  induction rules generalizing tree with
  | nil => exact .refl _ tree
  | cons rule rules ih =>
    have hfirst := moveTo_changedWithin root process rule tree hlinks
    have hstep : ChangedWithin
        (fun location ↦ ∃ rule' ∈ rule :: rules, IsDestination root tree rule' location) tree
        (moveTo root process rule tree).tree :=
      hfirst.mono fun location hlocation ↦ ⟨rule, List.mem_cons_self, hlocation⟩
    rw [moveAlong_cons]
    dsimp only
    cases (moveTo root process rule tree).result with
    | error cause => exact hstep
    | ok =>
      refine hstep.trans ((ih _ (hlinks.of_sameShape hfirst.toSameShape)).mono ?_)
      rintro location ⟨rule', hrule', hlocation⟩
      exact ⟨rule', List.mem_cons_of_mem _ hrule', hlocation.of_sameShape hfirst.toSameShape⟩

/-- The request is judged by the rules, whose destinations are relative to the root, and the rule is
among those that it selects. -/
structure Selects (engine : Engine) (tree : FileTree) (request : ClassifyRequest) (root : String)
    (rules : RuleSet) (rule : Rule) : Prop where
  settled : engine.root = some root
  inForce : (engine.rulesFor tree request.useCache).1 = .ok rules
  selected : rule ∈ engine.selectionFor rules request

theorem move_changedWithin (engine : Engine) (tree : FileTree) (request : ClassifyRequest)
    (hlinks : tree.IsLinkFree) :
    ChangedWithin
      (fun location ↦ ∃ root rules rule, engine.Selects tree request root rules rule ∧
        IsDestination root tree rule location)
      tree (engine.move tree request).tree := by
  unfold move
  cases hroot : engine.root with
  | none => exact .refl _ tree
  | some root =>
    dsimp only
    rcases hrules : engine.rulesFor tree request.useCache with ⟨_ | rules, records⟩
    · exact .refl _ tree
    · dsimp only [moveBy]
      split
      · exact .refl _ tree
      · rename_i selected _
        refine (moveAlong_changedWithin root request.process _ tree hlinks).mono ?_
        rintro location ⟨rule, hrule, hlocation⟩
        exact ⟨root, rules, rule, ⟨hroot, by rw [hrules], hrule⟩, hlocation⟩

end Engine

end Regroup
