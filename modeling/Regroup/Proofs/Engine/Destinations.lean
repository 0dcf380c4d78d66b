import Regroup.Proofs.Engine.PartialMove

/-!
# Destination by destination

A destination admits a process if it is a directory whose process file opens for writing, and else
refuses it for one of two reasons. Both are a matter of the shape of the tree, which no request
changes, so whether a destination admits the process can be told before the first of them is written
to.

A request succeeds if all of its destinations admit the process and fails at the first that does
not. The process files of those before hold the number of the process over the start of what they
held, however often one of them is named and whatever path leads to it, and no other file changes.
-/

namespace Regroup

open FileTree (SameShape)

namespace FileTree

/-- Whether a path leads to a directory is a matter of the shape of the tree only. -/
theorem SameShape.isDirectory_eq {t u : FileTree} (h : SameShape t u) (path : String) :
    t.isDirectory path = u.isDirectory path := by
  unfold isDirectory
  rw [h.locate_eq]
  cases u.locate path with
  | error => rfl
  | ok location =>
    dsimp only
    rcases h.entry?_cases location with ⟨ht, hu⟩ | ⟨before, after, ht, hu⟩ | ⟨ht, hu⟩
    · rw [ht, hu]
    · rw [ht, hu]
      rfl
    · rw [ht, hu]

theorem SameShape.isSome_content? {t u : FileTree} (h : SameShape t u) (location : Location) :
    (t.content? location).isSome = (u.content? location).isSome := by
  unfold content?
  rcases h.entry?_cases location with ⟨ht, hu⟩ | ⟨before, after, ht, hu⟩ | ⟨ht, hu⟩
  · rw [ht, hu]
  · rw [ht, hu]
    rfl
  · rw [ht, hu]

/-- What opens for writing is a file. -/
theorem isSome_content?_of_openForWriting {t : FileTree} {path : String} {location : Location}
    (h : t.openForWriting path = .ok location) : (t.content? location).isSome := by
  obtain ⟨found, -, hfound⟩ := (bind_eq_ok_iff _ _ _).1 h
  split at hfound
  · rename_i content hentry
    obtain rfl := Except.ok.inj hfound
    rw [content?, hentry]
    rfl
  · cases hfound
  · cases hfound

end FileTree

namespace Cgroup

/-- The number of a process over the start of what a file held. -/
def overlaid (process : Int32) (content : Bytes) : Bytes :=
  processText process ++ content.drop (processText process).length

@[simp]
theorem overlaid_overlaid (process : Int32) (content : Bytes) :
    overlaid process (overlaid process content) = overlaid process content := by
  simp [overlaid]

/-- There are files at the locations, which hold the number of the process over the start of what
they held before, apart from the null device, which stays empty. Nothing else has changed. -/
structure Overlays (process : Int32) (locations : List Location) (before after : FileTree) :
    Prop where
  files : ∀ location ∈ locations, (before.content? location).isSome
  written : ∀ location ∈ locations, location ≠ FileTree.nullDevice →
    after.content? location = (before.content? location).map (overlaid process)
  unchanged : ∀ location, (location ∈ locations → location = FileTree.nullDevice) →
    after.entry? location = before.entry? location
  sameShape : SameShape before after

theorem overlays_nil (process : Int32) (tree : FileTree) : Overlays process [] tree tree :=
  ⟨fun _ hmem ↦ absurd hmem List.not_mem_nil, fun _ hmem ↦ absurd hmem List.not_mem_nil,
    fun _ _ ↦ rfl, .refl tree⟩

theorem overlays_overwrite (process : Int32) (tree : FileTree) (location : Location)
    (hfile : (tree.content? location).isSome) :
    Overlays process [location] tree (tree.overwrite location (processText process)) := by
  obtain ⟨content, hcontent⟩ := Option.isSome_iff_exists.1 hfile
  constructor
  case files =>
    intro other hother
    rwa [List.mem_singleton.1 hother]
  case written =>
    intro other hother hnull
    obtain rfl := List.mem_singleton.1 hother
    have hentry := tree.entry?_overwrite other other (processText process) content hnull hcontent
    rw [if_pos rfl] at hentry
    rw [FileTree.content?, hentry, hcontent]
    rfl
  case unchanged =>
    intro other hother
    by_cases hsame : other = location
    · subst hsame
      rw [hother List.mem_cons_self, FileTree.overwrite_nullDevice]
    · exact tree.entry?_overwrite_of_ne location other _ hsame
  case sameShape => exact tree.sameShape_overwrite location _

/-- Where a file is written to again, it stays as it is from the first time on. -/
theorem Overlays.trans {process : Int32} {locations later : List Location} {t u v : FileTree}
    (h : Overlays process locations t u) (h' : Overlays process later u v) :
    Overlays process (locations ++ later) t v := by
  constructor
  case files =>
    intro location hlocation
    rcases List.mem_append.1 hlocation with hfirst | hlater
    · exact h.files location hfirst
    · rw [h.sameShape.isSome_content?]
      exact h'.files location hlater
  case written =>
    intro location hlocation hnull
    by_cases hfirst : location ∈ locations
    · by_cases hlater : location ∈ later
      · rw [h'.written location hlater hnull, h.written location hfirst hnull, Option.map_map]
        congr 1
        funext content
        exact overlaid_overlaid process content
      · have hsame := h'.unchanged location fun hmem ↦ absurd hmem hlater
        rw [FileTree.content?_of_entry?_eq _ _ _ hsame, h.written location hfirst hnull]
    · have hlater := (List.mem_append.1 hlocation).resolve_left hfirst
      have hsame := h.unchanged location fun hmem ↦ absurd hmem hfirst
      rw [h'.written location hlater hnull, FileTree.content?_of_entry?_eq _ _ _ hsame]
  case unchanged =>
    intro location hlocation
    calc
      v.entry? location = u.entry? location :=
        h'.unchanged location fun hmem ↦ hlocation (List.mem_append_right _ hmem)
      _ = t.entry? location :=
        h.unchanged location fun hmem ↦ hlocation (List.mem_append_left _ hmem)
  case sameShape => exact h.sameShape.trans h'.sameShape

theorem overlays_record (process : Int32) (tree : FileTree) (locations : List Location)
    (hfiles : ∀ location ∈ locations, (tree.content? location).isSome) :
    Overlays process locations tree (record process locations tree) := by
  induction locations generalizing tree with
  | nil => exact overlays_nil process tree
  | cons location locations ih =>
    have hfirst := overlays_overwrite process tree location (hfiles _ List.mem_cons_self)
    refine hfirst.trans (ih _ ?_)
    intro later hlater
    rw [← hfirst.sameShape.isSome_content?]
    exact hfiles later (List.mem_cons_of_mem _ hlater)

end Cgroup

namespace Engine

/-- The destination of the rule is a directory, and its process file can be written to. -/
structure Admits (tree : FileTree) (root : String) (rule : Rule) (location : Location) : Prop where
  directory : tree.isDirectory (Path.join root rule.destination) = true
  opens : IsOpenAt tree root rule location

/-- Why the destination of a rule does not admit a process. -/
inductive Refuses (tree : FileTree) (root : String) (process : Int32) (rule : Rule) :
    ClassifyError → Prop where
  | missing (hdirectory : tree.isDirectory (Path.join root rule.destination) = false) :
    Refuses tree root process rule (.destinationMissing (Path.join root rule.destination))
  | attach (cause : SystemError)
    (hdirectory : tree.isDirectory (Path.join root rule.destination) = true)
    (hopen : tree.openForWriting (Cgroup.processFile (Path.join root rule.destination)) =
      .error cause) :
    Refuses tree root process rule (.attach process (Path.join root rule.destination) cause)

variable {t u : FileTree} {root : String} {process : Int32} {rule : Rule} {location : Location}
  {cause : ClassifyError}

theorem admits_or_refuses (tree : FileTree) (root : String) (process : Int32) (rule : Rule) :
    (∃ location, Admits tree root rule location) ∨
      ∃ cause, Refuses tree root process rule cause := by
  cases hdirectory : tree.isDirectory (Path.join root rule.destination) with
  | false => exact .inr ⟨_, .missing hdirectory⟩
  | true =>
    cases hopen : tree.openForWriting (Cgroup.processFile (Path.join root rule.destination)) with
    | error cause => exact .inr ⟨_, .attach cause hdirectory hopen⟩
    | ok location => exact .inl ⟨location, hdirectory, hopen⟩

theorem Refuses.not_admits (h : Refuses t root process rule cause) :
    ¬ Admits t root rule location := by
  intro hadmits
  cases h with
  | missing hdirectory =>
    rw [hadmits.directory] at hdirectory
    cases hdirectory
  | attach cause hdirectory hopen => cases hopen.symm.trans hadmits.opens

theorem Admits.of_sameShape (h : Admits t root rule location) (hshape : SameShape t u) :
    Admits u root rule location :=
  ⟨(hshape.isDirectory_eq _).symm.trans h.directory,
    (hshape.openForWriting_eq _).symm.trans h.opens⟩

theorem Refuses.of_sameShape (h : Refuses t root process rule cause) (hshape : SameShape t u) :
    Refuses u root process rule cause := by
  cases h with
  | missing hdirectory => exact .missing ((hshape.isDirectory_eq _).symm.trans hdirectory)
  | attach cause hdirectory hopen =>
    exact .attach cause ((hshape.isDirectory_eq _).symm.trans hdirectory)
      ((hshape.openForWriting_eq _).symm.trans hopen)

/-- Writing to the process files of destinations that admit the process. -/
theorem overlays_of_admits (process : Int32) {rules : RuleSet} {locations : List Location}
    (h : List.Forall₂ (Admits t root) rules locations) :
    Cgroup.Overlays process locations t (Cgroup.record process locations t) := by
  apply Cgroup.overlays_record
  have hfiles : List.Forall₂ (fun location (_ : Rule) ↦ (t.content? location).isSome ∧ True)
      locations rules :=
    (h.imp fun _ _ hadmits ↦
      ⟨FileTree.isSome_content?_of_openForWriting hadmits.opens, trivial⟩).flip
  exact ((List.forall₂_and_left _ _).1 hfiles).1

theorem moveTo_of_admits (process : Int32) (h : Admits t root rule location) :
    (moveTo root process rule t).result = .ok () ∧
      (moveTo root process rule t).tree = Cgroup.record process [location] t := by
  have hattach : Cgroup.attach t (Path.join root rule.destination) process =
      .ok (Cgroup.record process [location] t) := by
    rw [Cgroup.attach, show t.openForWriting _ = .ok location from h.opens]
    rfl
  simp only [moveTo, h.directory, if_true, hattach, and_self]

theorem moveTo_of_refuses (h : Refuses t root process rule cause) :
    (moveTo root process rule t).result = .error cause ∧ (moveTo root process rule t).tree = t := by
  cases h with
  | missing hdirectory => simp only [moveTo, hdirectory, Bool.false_eq_true, if_false, and_self]
  | attach cause hdirectory hopen =>
    have hattach : Cgroup.attach t (Path.join root rule.destination) process = .error cause := by
      rw [Cgroup.attach, hopen]
      rfl
    simp only [moveTo, hdirectory, if_true, hattach, and_self]

/-! ## One destination after the other -/

/-- Where all destinations up to some point admit the process, they are written to and the request
goes on behind them. -/
theorem moveAlong_append_of_admits (process : Int32) {done : RuleSet} {locations : List Location}
    (h : List.Forall₂ (Admits t root) done locations) (rest : RuleSet) :
    (moveAlong root process (done ++ rest) t).result =
        (moveAlong root process rest (Cgroup.record process locations t)).result ∧
      (moveAlong root process (done ++ rest) t).tree =
        (moveAlong root process rest (Cgroup.record process locations t)).tree := by
  induction done generalizing t locations with
  | nil =>
    cases h
    exact ⟨rfl, rfl⟩
  | cons rule done ih =>
    cases h with
    | @cons _ location _ locations hfirst hdone =>
      obtain ⟨hresult, htree⟩ := moveTo_of_admits process hfirst
      have hshape := (overlays_of_admits process (.cons hfirst .nil)).sameShape
      have hlater := hdone.imp fun _ _ hadmits ↦ Admits.of_sameShape hadmits hshape
      rw [List.cons_append, moveAlong_cons]
      simp only [hresult, htree]
      exact ih hlater

/-- Either all destinations admit the process, or there is a first that does not. -/
theorem exists_admits_or_refuses (tree : FileTree) (root : String) (process : Int32)
    (rules : RuleSet) :
    (∃ locations, List.Forall₂ (Admits tree root) rules locations) ∨
      ∃ done rule later locations cause, rules = done ++ rule :: later ∧
        List.Forall₂ (Admits tree root) done locations ∧ Refuses tree root process rule cause := by
  induction rules with
  | nil => exact .inl ⟨[], .nil⟩
  | cons rule rules ih =>
    rcases admits_or_refuses tree root process rule with ⟨location, hadmits⟩ | ⟨cause, hrefuses⟩
    · rcases ih with ⟨locations, hall⟩ |
        ⟨done, failing, later, locations, cause, rfl, hdone, hfirst⟩
      · exact .inl ⟨location :: locations, .cons hadmits hall⟩
      · exact .inr ⟨rule :: done, failing, later, location :: locations, cause, rfl,
          .cons hadmits hdone, hfirst⟩
    · exact .inr ⟨[], rule, rules, [], cause, rfl, .nil, hrefuses⟩

theorem moveAlong_of_admits (process : Int32) {rules : RuleSet} {locations : List Location}
    (h : List.Forall₂ (Admits t root) rules locations) :
    (moveAlong root process rules t).result = .ok () ∧
      (moveAlong root process rules t).tree = Cgroup.record process locations t := by
  have hmove := moveAlong_append_of_admits process h []
  rwa [List.append_nil] at hmove

theorem moveAlong_of_refuses {done : RuleSet} {locations : List Location}
    (h : List.Forall₂ (Admits t root) done locations)
    (hrefuses : Refuses t root process rule cause) (later : RuleSet) :
    (moveAlong root process (done ++ rule :: later) t).result = .error cause ∧
      (moveAlong root process (done ++ rule :: later) t).tree =
        Cgroup.record process locations t := by
  have hshape := (overlays_of_admits process h).sameShape
  obtain ⟨hresult, htree⟩ := moveAlong_append_of_admits process h (rule :: later)
  obtain ⟨hfailing, hkept⟩ := moveTo_of_refuses (hrefuses.of_sameShape hshape)
  rw [hresult, htree, moveAlong_cons]
  simp only [hfailing, hkept, and_self]

/-- A process is moved along the destinations of the rules: its number stands in the process files
of them all, or up to the first of them that refuses it. -/
inductive MovesAlong (tree : FileTree) (root : String) (process : Int32) (rules : RuleSet) :
    Except ClassifyError Unit → FileTree → Prop where
  | toAll (locations : List Location) (after : FileTree)
    (hadmits : List.Forall₂ (Admits tree root) rules locations)
    (hafter : Cgroup.Overlays process locations tree after) :
    MovesAlong tree root process rules (.ok ()) after
  | upTo (done : RuleSet) (rule : Rule) (later : RuleSet) (locations : List Location)
    (cause : ClassifyError) (after : FileTree) (hsplit : rules = done ++ rule :: later)
    (hadmits : List.Forall₂ (Admits tree root) done locations)
    (hrefuses : Refuses tree root process rule cause)
    (hafter : Cgroup.Overlays process locations tree after) :
    MovesAlong tree root process rules (.error cause) after

theorem movesAlong_moveAlong (tree : FileTree) (root : String) (process : Int32)
    (rules : RuleSet) :
    MovesAlong tree root process rules (moveAlong root process rules tree).result
      (moveAlong root process rules tree).tree := by
  rcases exists_admits_or_refuses tree root process rules with
    ⟨locations, hall⟩ | ⟨done, rule, later, locations, cause, hsplit, hdone, hrefuses⟩
  · obtain ⟨hresult, htree⟩ := moveAlong_of_admits process hall
    rw [hresult, htree]
    exact .toAll locations _ hall (overlays_of_admits process hall)
  · obtain ⟨hresult, htree⟩ := moveAlong_of_refuses hdone hrefuses later
    rw [← hsplit] at hresult htree
    rw [hresult, htree]
    exact .upTo done rule later locations cause _ hsplit hdone hrefuses
      (overlays_of_admits process hdone)

/-! ## Requests -/

theorem move_eq_moveAlong (engine : Engine) (tree : FileTree) (request : ClassifyRequest)
    (rules : RuleSet) (hroot : engine.root = some root)
    (hrules : (engine.rulesFor tree request.useCache).1 = .ok rules) :
    (engine.move tree request).result =
        (moveAlong root request.process (engine.selectionFor rules request) tree).result ∧
      (engine.move tree request).tree =
        (moveAlong root request.process (engine.selectionFor rules request) tree).tree := by
  unfold move
  rw [hroot]
  rcases hanswer : engine.rulesFor tree request.useCache with ⟨found, records⟩
  obtain rfl : found = .ok rules := by rw [← hrules, hanswer]
  dsimp only [moveBy]
  cases engine.selectionFor rules request <;> exact ⟨rfl, rfl⟩

/-- With its root settled and rules to judge by, the engine moves a process exactly where all
destinations admit it. Where one of them does not, the failure is that of the first one, and those
before it have been written to. -/
theorem classify_by_destinations (engine : Engine) (tree : FileTree) (request : ClassifyRequest)
    (root : String) (rules : RuleSet) (hroot : engine.root = some root)
    (hrules : (engine.rulesFor tree request.useCache).1 = .ok rules) :
    let selected :=
      rules.selection request.user request.group (engine.identities.userName? request.user)
    let answer := Classifier.classify engine tree request
    (answer.result = .ok () ↔ ∀ rule ∈ selected, ∃ location, Admits tree root rule location) ∧
      (answer.result = .ok () →
        ∃ locations, List.Forall₂ (Admits tree root) selected locations ∧
          answer.tree = Cgroup.record request.process locations tree ∧
          Cgroup.Overlays request.process locations tree answer.tree) ∧
      (∀ cause, answer.result = .error cause →
        ∃ done rule later locations, selected = done ++ rule :: later ∧
          List.Forall₂ (Admits tree root) done locations ∧
          Refuses tree root request.process rule cause ∧
          (tree.isDirectory (Path.join root rule.destination) = false →
            cause.code = Errno.noEntry) ∧
          answer.tree = Cgroup.record request.process locations tree ∧
          Cgroup.Overlays request.process locations tree answer.tree) ∧
      (selected = [] → answer.result = .ok () ∧ answer.tree = tree) := by
  intro selected answer
  obtain ⟨hresult, htree⟩ := engine.move_eq_moveAlong tree request rules hroot hrules
  change answer.result = (moveAlong root request.process selected tree).result at hresult
  change answer.tree = (moveAlong root request.process selected tree).tree at htree
  have hnone : selected = [] → answer.result = .ok () ∧ answer.tree = tree := by
    intro hempty
    rw [hresult, htree, hempty]
    exact ⟨rfl, rfl⟩
  rcases exists_admits_or_refuses tree root request.process selected with
    ⟨locations, hall⟩ | ⟨done, rule, later, locations, cause, hsplit, hdone, hrefuses⟩
  · obtain ⟨hok, hwritten⟩ := moveAlong_of_admits request.process hall
    rw [← hresult] at hok
    rw [← htree] at hwritten
    have hadmits : ∀ rule ∈ selected, ∃ location, Admits tree root rule location :=
      ((List.forall₂_and_left _ _).1 (hall.imp fun _ location h ↦ ⟨⟨location, h⟩, h⟩)).1
    refine ⟨iff_of_true hok hadmits, fun _ ↦ ⟨locations, hall, hwritten, ?_⟩, ?_, hnone⟩
    · rw [hwritten]
      exact overlays_of_admits request.process hall
    · intro cause herror
      rw [hok] at herror
      cases herror
  · have hmove := moveAlong_of_refuses hdone hrefuses later
    rw [← hsplit, ← hresult, ← htree] at hmove
    obtain ⟨herror, hwritten⟩ := hmove
    have hfails : ¬ answer.result = .ok () := by
      rw [herror]
      exact nofun
    have hrefused : ¬ ∀ rule ∈ selected, ∃ location, Admits tree root rule location := by
      intro hadmits
      have hmem : rule ∈ selected := by simp [hsplit]
      obtain ⟨location, hadmitted⟩ := hadmits rule hmem
      exact hrefuses.not_admits hadmitted
    refine ⟨iff_of_false hfails hrefused, fun hok ↦ absurd hok hfails, ?_, hnone⟩
    intro cause' hcause
    obtain rfl := Except.error.inj (herror.symm.trans hcause)
    refine ⟨done, rule, later, locations, hsplit, hdone, hrefuses, ?_, hwritten, ?_⟩
    · intro hdirectory
      cases hrefuses with
      | missing => rfl
      | attach cause hfound =>
        rw [hfound] at hdirectory
        cases hdirectory
    · rw [hwritten]
      exact overlays_of_admits request.process hdone

/-- Two of three destinations are one group by two paths, whose process file holds a longer number,
and the third is missing. -/
theorem classify_by_destinations_same_group_twice :
    let rules : RuleSet := [⟨.anyone, .all, "g", false, 1⟩, ⟨.anyone, .all, "./g", true, 2⟩,
      ⟨.anyone, .all, "missing", true, 3⟩]
    let engine : Engine :=
      { rulesFile := "/rules", configuredRoot := none, identities := ⟨[], []⟩, root := some "/cg",
        cache := some rules }
    let tree : FileTree :=
      { entries := [(["cg"], .directory), (["cg", "g"], .directory),
          (["cg", "g", "cgroup.procs"], .file (Text.encode "12345"))],
        workingDirectory := [] }
    let answer := Classifier.classify engine tree ⟨7, 7, 98, true⟩
    engine.root = some "/cg" ∧ (engine.rulesFor tree true).1 = .ok rules ∧
      answer.result = .error (.destinationMissing "/cg/missing") ∧
      answer.tree.content? ["cg", "g", "cgroup.procs"] = some (Text.encode "98345") ∧
      ∃ done rule later locations, rules.selection 7 7 none = done ++ rule :: later ∧
        List.Forall₂ (Admits tree "/cg") done locations ∧
        Refuses tree "/cg" 98 rule (.destinationMissing "/cg/missing") ∧
        Cgroup.Overlays 98 locations tree answer.tree := by
  intro rules engine tree answer
  have hroot : engine.root = some "/cg" := rfl
  have hrules : (engine.rulesFor tree true).1 = .ok rules := rfl
  have hfailure : answer.result = .error (.destinationMissing "/cg/missing") := by decide +kernel
  have hcontent : answer.tree.content? ["cg", "g", "cgroup.procs"] =
      some (Text.encode "98345") := by decide +kernel
  have hjudged := classify_by_destinations engine tree ⟨7, 7, 98, true⟩ "/cg" rules hroot hrules
  obtain ⟨done, rule, later, locations, hsplit, hdone, hrefuses, -, -, hafter⟩ :=
    hjudged.2.2.1 _ hfailure
  exact ⟨hroot, hrules, hfailure, hcontent, done, rule, later, locations, hsplit, hdone, hrefuses,
    hafter⟩

end Engine

end Regroup
