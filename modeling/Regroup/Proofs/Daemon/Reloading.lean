import Regroup.Proofs.Daemon.StartUp
import Regroup.Proofs.Engine.Lifecycle

/-!
# Reloading again

What a load comes to is settled by the rules file and by the settings of the engine, and a load
changes neither. So a reload that is repeated on the same files meets the same rules or the same
fault, leaves the engine where the first one has left it, and lists what that one has listed. As
long as no later load has succeeded, a file that holds the text of the last successful load is
reloaded to the rules that are in the cache anyway, and the listing is that of the start.
-/

namespace Regroup

open Daemon (Machine Stage listingText)

namespace Engine

/-- The later engine reads rules as the earlier one does and has the same rules in its cache. -/
structure ListsAs (engine later : Engine) : Prop where
  rulesFile : later.rulesFile = engine.rulesFile
  identities : later.identities = engine.identities
  cache : later.cache = engine.cache

namespace ListsAs

variable {engine later latest : Engine}

theorem refl (engine : Engine) : ListsAs engine engine :=
  ⟨rfl, rfl, rfl⟩

theorem trans (h : ListsAs engine later) (h' : ListsAs later latest) : ListsAs engine latest :=
  ⟨h'.rulesFile.trans h.rulesFile, h'.identities.trans h.identities, h'.cache.trans h.cache⟩

theorem listing_eq (h : ListsAs engine later) : later.listing = engine.listing := by
  unfold listing
  rw [h.cache]

theorem readText_eq (h : ListsAs engine later) (text : List Char) :
    later.readText text = engine.readText text := by
  unfold readText
  rw [h.rulesFile, h.identities]

end ListsAs

theorem listsAs_init (engine : Engine) (tree : FileTree) :
    ListsAs engine (engine.init tree).state := by
  unfold init
  split
  · exact .refl engine
  · exact ⟨rfl, rfl, rfl⟩

/-- Only a load that succeeds changes what an engine lists. -/
theorem listsAs_respond (engine : Engine) (tree : FileTree) (action : EngineAction)
    (h : ¬(action.loadsRules = true ∧ (engine.respond tree action).answer.isSuccess = true)) :
    ListsAs engine (engine.respond tree action).state := by
  cases action with
  | init => exact engine.listsAs_init tree
  | load | reload =>
    have hfailed : ¬∃ loaded, (engine.load tree).result = .ok loaded := by
      rw [← isSuccess_prepared _ (engine.load tree).records]
      exact fun hsuccess ↦ h ⟨rfl, hsuccess⟩
    have hstate : (engine.load tree).state = engine := by
      cases hresult : (engine.load tree).result with
      | ok loaded => exact absurd ⟨loaded, hresult⟩ hfailed
      | error cause => exact engine.load_of_failure tree cause hresult
    have hsame : ListsAs engine (engine.load tree).state := by
      rw [hstate]
      exact .refl engine
    exact hsame
  | classify request | print | edit change => exact .refl engine

/-- Until a load succeeds, nothing that is asked for changes what an engine lists. -/
theorem listsAs_reached (engine : Engine) (tree : FileTree) (actions : List EngineAction)
    (h : ¬HasSucceeded EngineAction.loadsRules engine tree actions) :
    ListsAs engine (Responder.reached respond engine tree actions).1 := by
  induction actions generalizing engine tree with
  | nil => exact .refl engine
  | cons action actions ih =>
    rw [hasSucceeded_cons, not_or] at h
    have hstep := engine.listsAs_respond tree action h.1
    have hrest := ih (engine.respond tree action).state (engine.respond tree action).tree h.2
    exact hstep.trans hrest

/-! ## Loading again -/

variable (engine : Engine) (tree : FileTree)

theorem rulesFile_load : (engine.load tree).state.rulesFile = engine.rulesFile := by
  unfold load
  dsimp only
  split <;> rfl

theorem readText_load (text : List Char) :
    (engine.load tree).state.readText text = engine.readText text := by
  unfold load
  dsimp only
  split <;> rfl

theorem readRulesFile_load (files : FileTree) :
    (engine.load tree).state.readRulesFile files = engine.readRulesFile files := by
  unfold readRulesFile
  rw [rulesFile_load]
  cases files.readText engine.rulesFile with
  | error cause => rfl
  | ok text => exact engine.readText_load tree text

/-- A load that is repeated on the same files has the same outcome, down to what it logs. -/
theorem load_load : (engine.load tree).state.load tree = engine.load tree := by
  have hread := engine.readRulesFile_load tree tree
  have hfile := engine.rulesFile_load tree
  cases hresult : (engine.readRulesFile tree).result with
  | error cause => rw [engine.load_of_error tree cause hresult]
  | ok rules =>
    have hstate := engine.load_of_ok tree rules hresult
    rw [hstate] at hread hfile ⊢
    simp only [load, hread, hresult]

/-- The cache holds the rules of the text that the last successful load has read. -/
theorem listing_load_of_text (text : List Char) (rules : RuleSet)
    (hfile : tree.readText engine.rulesFile = .ok text)
    (hrules : (engine.readText text).result = .ok rules) :
    (engine.load tree).state.listing = rules.listing := by
  have hread : (engine.readRulesFile tree).result = .ok rules := by
    simp only [readRulesFile, hfile, hrules]
  rw [engine.load_of_ok tree rules hread, listing]

theorem text_of_load (loaded : Unit) (h : (engine.load tree).result = .ok loaded) :
    ∃ text rules, tree.readText engine.rulesFile = .ok text ∧
      (engine.readText text).result = .ok rules := by
  obtain ⟨rules, hrules⟩ := engine.load_eq_ok tree loaded h
  unfold readRulesFile at hrules
  cases hfile : tree.readText engine.rulesFile with
  | error cause =>
    rw [hfile] at hrules
    cases hrules
  | ok text =>
    rw [hfile] at hrules
    exact ⟨text, rules, rfl, hrules⟩

/-- Once the file holds again what the last successful load has read from it, a reload lists what
was listed after that load, whatever has been asked for since then. -/
theorem listing_reload_of_current (loaded : Unit) (later : List EngineAction)
    (hload : (engine.load tree).result = .ok loaded)
    (hlater : ¬HasSucceeded EngineAction.loadsRules (engine.load tree).state tree later)
    (hcurrent :
      let now := Responder.reached respond (engine.load tree).state tree later
      now.2.readText engine.rulesFile = tree.readText engine.rulesFile) :
    let now := Responder.reached respond (engine.load tree).state tree later
    (now.1.load now.2).state.listing = (engine.load tree).state.listing := by
  intro now
  obtain ⟨text, rules, hfile, hrules⟩ := engine.text_of_load tree loaded hload
  have hkept : ListsAs (engine.load tree).state now.1 :=
    (engine.load tree).state.listsAs_reached tree later hlater
  have hnowFile : now.2.readText now.1.rulesFile = .ok text := by
    rw [hkept.rulesFile, rulesFile_load]
    exact hcurrent.trans hfile
  have hnowRules : (now.1.readText text).result = .ok rules := by
    rw [hkept.readText_eq, readText_load, hrules]
  calc
    (now.1.load now.2).state.listing = rules.listing :=
      now.1.listing_load_of_text now.2 text rules hnowFile hnowRules
    _ = (engine.load tree).state.listing :=
      (engine.listing_load_of_text tree text rules hfile hrules).symm

/-! ## Reloading again -/

/-- How a reload compares with one before it and with the listing of a start. -/
structure ReloadsAlike : Prop where
  again : ∀ first second,
    let once := reloadPolicy engine tree first
    let twice := reloadPolicy once.1 tree second
    twice.1 = once.1 ∧ twice.2.2 = once.2.2 ∧
      ∃ listing, once.2.1 = listingText first listing ∧ twice.2.1 = listingText second listing
  failed : ∀ cause generation, (Classifier.reload engine tree).result = .error cause →
    (reloadPolicy engine tree generation).1 = engine ∧
      (reloadPolicy engine tree generation).2.1 =
        listingText generation (Classifier.listing engine)
  current : ∀ loaded later, (engine.load tree).result = .ok loaded →
    ¬HasSucceeded EngineAction.loadsRules (engine.load tree).state tree later →
    let now := Responder.reached respond (engine.load tree).state tree later
    now.2.readText engine.rulesFile = tree.readText engine.rulesFile →
    ∀ m : Machine,
      let listed := (m.list 0 (reloadPolicy now.1 now.2 0).2.1).flush
      listed = Stage.listRules (engine.load tree).state m ∧ listed = Stage.listRules now.1 m

/-- Whatever the state of the engine and of the files, a reload that is repeated leaves the engine
and the listing below its header as they are. A reload that fails lists what was listed before it.
One that finds what the last successful load has found lists, under generation zero, what a start
does. -/
theorem reload_again : ReloadsAlike engine tree := by
  refine ⟨?_, ?_, ?_⟩
  · intro first second once twice
    have hload : (engine.load tree).state.load tree = engine.load tree := engine.load_load tree
    have hstate : twice.1 = once.1 := congrArg Reload.state hload
    refine ⟨hstate, ?_, once.1.listing, rfl, ?_⟩
    · simp only [twice, once, reloadPolicy, Classifier.reload, hload]
    · rw [← hstate]
      rfl
  · intro cause generation hcause
    have hstate : (engine.load tree).state = engine := engine.load_of_failure tree cause hcause
    refine ⟨hstate, ?_⟩
    exact congrArg (fun kept : Engine ↦ listingText generation kept.listing) hstate
  · intro loaded later hload hlater now hcurrent m listed
    have hlisting : (now.1.load now.2).state.listing = (engine.load tree).state.listing :=
      engine.listing_reload_of_current tree loaded later hload hlater hcurrent
    have hkept : now.1.listing = (engine.load tree).state.listing :=
      ((engine.load tree).state.listsAs_reached tree later hlater).listing_eq
    have hlisted : listed = (m.list 0 (listingText 0 (now.1.load now.2).state.listing)).flush :=
      rfl
    rw [hlisted, hlisting]
    refine ⟨rfl, ?_⟩
    rw [← hkept]
    rfl

/-- A rules file that is spoiled and mended again, with a reload in between that fails. -/
theorem reload_again_of_mended_file :
    let tree : FileTree := {
      entries := [(["rules"], .file (Text.encode "* cpu g\n"))]
      workingDirectory := [] }
    let engine : Engine :=
      { rulesFile := "/rules", configuredRoot := none, identities := ⟨[], []⟩ }
    let write (text : String) (tree : FileTree) := tree.put ["rules"] (.file (Text.encode text))
    let loaded := (engine.load tree).state
    let spoiled := reloadPolicy loaded (write "* cpu\n" tree) 1
    let now := Responder.reached respond loaded tree
      [.edit (write "* cpu\n"), .reload, .edit (write "* cpu g\n")]
    spoiled.1 = loaded ∧
      spoiled.2.1 = "Rules (generation 1):\nRule: *\n  UID: any\n  GID: any\n" ++
        "  DEST: /g\n  CONTROLLERS: cpu\n\n\n" ∧
      ∀ m : Machine,
        (m.list 0 (reloadPolicy now.1 now.2 0).2.1).flush = Stage.listRules loaded m := by
  intro tree engine write loaded spoiled now
  have hfailure : (Classifier.reload loaded (write "* cpu\n" tree)).result =
      .error (.malformed "/rules" 1 (RuleFault.fieldCount 2).reason) := by decide +kernel
  obtain ⟨hkept, hlisted⟩ :=
    (reload_again loaded (write "* cpu\n" tree)).failed _ 1 hfailure
  have hmended := (reload_again engine tree).current ()
    [.edit (write "* cpu\n"), .reload, .edit (write "* cpu g\n")]
    (by decide +kernel) (by decide +kernel) (by decide +kernel)
  exact ⟨hkept, hlisted.trans (by decide +kernel), fun m ↦ (hmended m).1⟩

end Engine

end Regroup
