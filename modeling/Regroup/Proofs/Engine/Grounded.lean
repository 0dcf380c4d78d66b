import Regroup.Proofs.Engine.Writes
import Regroup.Proofs.Rule.Selection

/-!
# Engines that stay below their root

An engine that starts without rules only ever holds rules that were read from a text, and a root
that led to a directory when it was settled. Reading rejects destinations that climb and takes the
leading slashes off, so whatever such an engine selects stays below its root.
-/

namespace Regroup

open FileTree (SameShape)

/-! ## Destinations of rules that were read -/

/-- Every rule of a text is what one of its lines says. -/
theorem Compiles.exists_isRuleOf {ids : Identities} {above : Option Subject}
    {lines : List NumberedLine} {rules : RuleSet} (h : Compiles ids above lines rules)
    (rule : Rule) (hrule : rule ∈ rules) : ∃ subject line, IsRuleOf subject line rule := by
  induction h with
  | done => cases hrule
  | continued subject line lines first rules hline hfirst hrest ih =>
    rcases List.mem_cons.1 hrule with rfl | hlater
    · exact ⟨subject, line, hfirst⟩
    · exact ih hlater
  | dropped line lines rules hline hrest ih => exact ih hrule
  | known above subject line lines first rules hline hfirst hrest ih =>
    rcases List.mem_cons.1 hrule with rfl | hlater
    · exact ⟨subject, line, hfirst⟩
    · exact ih hlater
  | unknown above line lines rules hline hnone hrest ih => exact ih hrule

theorem RuleSet.mem_of_mem_selection (rules : RuleSet) (user group : UInt32)
    (userName : Option String) (rule : Rule)
    (h : rule ∈ rules.selection user group userName) : rule ∈ rules := by
  unfold selection at h
  dsimp only at h
  split at h
  · cases h
  · rename_i first rest hrest
    have hsublist : (first :: rest).Sublist rules := by
      rw [← hrest]
      exact List.dropWhile_sublist _
    rcases List.mem_cons.1 h with rfl | hlater
    · exact hsublist.subset List.mem_cons_self
    · exact hsublist.subset
        (List.mem_cons_of_mem _ ((List.takeWhile_sublist _).subset hlater))

/-- The destination neither replaces what it is joined to nor climbs out of it. -/
def StaysBelow (destination : String) : Prop :=
  Path.isAbsolute destination = false ∧ ".." ∉ Path.pieces destination

theorem staysBelow_of_read (ids : Identities) (path : String) (text : List Char) (rules : RuleSet)
    (h : (RuleSet.read ids path text).result = .ok rules) (rule : Rule) (hrule : rule ∈ rules) :
    StaysBelow rule.destination := by
  obtain ⟨subject, line, hline⟩ := (compiles_of_readRules ids path 1 none _ rules h).exists_isRuleOf
    rule hrule
  refine ⟨hline.isAbsolute_destination, ?_⟩
  simpa [Path.climbs] using hline.climbs

namespace Engine

/-- Followed from the root, the destination leads straight down to its process file. -/
theorem IsDestination.eq_below {root : String} {tree : FileTree} {rule : Rule}
    {location rootLocation : Location} (h : IsDestination root tree rule location)
    (hroot : tree.locate root = .ok rootLocation) (hbelow : StaysBelow rule.destination) :
    location = FileTree.locationBelow rootLocation rule.destination ++ ["cgroup.procs"] := by
  obtain ⟨group, hgroup⟩ := h.group
  have hdown := tree.walk_of_locate_join root rule.destination rootLocation group hbelow.1 hroot
    hgroup
  obtain rfl := tree.walk_eq_append rootLocation group _ hbelow.2 hdown
  have hlast := tree.walk_of_locate_join _ "cgroup.procs" _ location (by decide) hgroup h.file
  rw [Path.pieces_of_no_slash "cgroup.procs" (by decide)] at hlast
  exact tree.walk_name _ location "cgroup.procs" (by decide) hlast

/-! ## Engines that were started and loaded -/

/-- The root leads somewhere, and the cached rules were read from some text. -/
structure IsGrounded (tree : FileTree) (engine : Engine) : Prop where
  root : ∀ root, engine.root = some root → ∃ location, tree.locate root = .ok location
  cache : ∀ rules, engine.cache = some rules → ∃ text, (engine.readText text).result = .ok rules

/-- Configured or detected, the root is a directory. -/
theorem isDirectory_of_findRoot (engine : Engine) (tree : FileTree) (root : String)
    (h : engine.findRoot tree = .ok root) : tree.isDirectory root = true := by
  have hchecked : ∀ found, (if tree.isDirectory found then .ok found
      else .error (.rootMissing found) : Except RulesError String) = .ok root →
      tree.isDirectory root = true := by
    intro found hfound
    split at hfound
    · rename_i hdirectory
      rw [← Except.ok.inj hfound]
      exact hdirectory
    · cases hfound
  unfold findRoot at h
  dsimp only at h
  split at h
  · obtain ⟨found, -, hfound⟩ := (bind_eq_ok_iff _ _ _).1 h
    exact hchecked found hfound
  · obtain ⟨found, -, hfound⟩ := (bind_eq_ok_iff _ _ _).1 h
    exact hchecked found hfound

theorem readRulesFile_eq_ok (engine : Engine) (tree : FileTree) (rules : RuleSet)
    (h : (engine.readRulesFile tree).result = .ok rules) :
    ∃ text, (engine.readText text).result = .ok rules := by
  unfold readRulesFile at h
  split at h
  · cases h
  · exact ⟨_, h⟩

namespace IsGrounded

variable {tree : FileTree} {engine : Engine}

theorem init (h : engine.IsGrounded tree) : (engine.init tree).state.IsGrounded tree := by
  unfold Engine.init
  split
  · exact h
  · rename_i root hroot
    refine ⟨fun root' hroot' ↦ ?_, h.cache⟩
    obtain rfl := Option.some.inj hroot'
    obtain ⟨location, hlocation, -⟩ :=
      (tree.isDirectory_iff root).1 (engine.isDirectory_of_findRoot tree root hroot)
    exact ⟨location, hlocation⟩

theorem load (h : engine.IsGrounded tree) : (engine.load tree).state.IsGrounded tree := by
  unfold Engine.load
  dsimp only
  split
  · exact h
  · rename_i rules hrules
    refine ⟨h.root, fun rules' hrules' ↦ ?_⟩
    obtain rfl := Option.some.inj hrules'
    exact engine.readRulesFile_eq_ok tree rules hrules

theorem of_sameShape {other : FileTree} (h : engine.IsGrounded tree)
    (hshape : SameShape tree other) : engine.IsGrounded other :=
  ⟨fun root hroot ↦ by simpa only [hshape.locate_eq] using h.root root hroot, h.cache⟩

/-- The rules that a request is judged by were read from some text. -/
theorem exists_text (h : engine.IsGrounded tree) (asked : FileTree) (useCache : Bool)
    (rules : RuleSet) (hrules : (engine.rulesFor asked useCache).1 = .ok rules) :
    ∃ text, (engine.readText text).result = .ok rules := by
  cases useCache with
  | true =>
    cases hcache : engine.cache with
    | none => simp [rulesFor, hcache] at hrules
    | some cached =>
      simp only [rulesFor, hcache, if_true] at hrules
      obtain rfl := Except.ok.inj hrules
      exact h.cache cached hcache
  | false =>
    simp only [rulesFor, Bool.false_eq_true, if_false] at hrules
    exact engine.readRulesFile_eq_ok asked rules ((mapError_eq_ok_iff _ _ _).1 hrules)

/-- What a grounded engine selects stays below its root. -/
theorem staysBelow (h : engine.IsGrounded tree) (asked : FileTree) (request : ClassifyRequest)
    (root : String) (rules : RuleSet) (rule : Rule)
    (hselects : engine.Selects asked request root rules rule) : StaysBelow rule.destination := by
  obtain ⟨text, htext⟩ := h.exists_text asked request.useCache rules hselects.inForce
  have hmem := rules.mem_of_mem_selection _ _ _ rule hselects.selected
  exact staysBelow_of_read _ _ text rules ((mapError_eq_ok_iff _ _ _).1 htext) rule hmem

end IsGrounded

end Engine

end Regroup
