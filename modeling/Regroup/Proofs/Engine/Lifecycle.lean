import Mathlib.Data.List.Basic
import Regroup.Proofs.Engine.TextMachine
import Regroup.Proofs.Engine.Writes

/-!
# When an engine is ready

A request needs the root of the hierarchy and rules to be judged by. The root is there once `init`
has succeeded, the cached rules are there once a load has, and neither is lost again, whatever fails
later on. So a request that uses the cache is turned away until both have succeeded. A request that
does not use the cache brings its own rules along and only waits for the root.
-/

namespace Regroup

/-- Whether the answer is that of a start or a load that has succeeded. -/
def EngineAnswer.isSuccess : EngineAnswer → Bool
  | prepared (.ok _) _ => true
  | prepared (.error _) _ | classified _ _ | printed _ | edited => false

namespace EngineAction

def settlesRoot : EngineAction → Bool
  | init => true
  | load | reload | classify _ | print | edit _ => false

def loadsRules : EngineAction → Bool
  | load | reload => true
  | init | classify _ | print | edit _ => false

end EngineAction

namespace Engine

/-- Among the actions is one of the given kind that has succeeded. -/
def HasSucceeded (kind : EngineAction → Bool) (engine : Engine) (tree : FileTree)
    (actions : List EngineAction) : Prop :=
  ∃ done ∈ actions.zip (Responder.answers respond engine tree actions),
    kind done.1 = true ∧ done.2.1.isSuccess = true

instance (kind : EngineAction → Bool) (engine : Engine) (tree : FileTree)
    (actions : List EngineAction) : Decidable (HasSucceeded kind engine tree actions) :=
  inferInstanceAs (Decidable (∃ done ∈ actions.zip _, _))

theorem hasSucceeded_cons (kind : EngineAction → Bool) (engine : Engine) (tree : FileTree)
    (action : EngineAction) (actions : List EngineAction) :
    HasSucceeded kind engine tree (action :: actions) ↔
      (kind action = true ∧ (engine.respond tree action).answer.isSuccess = true) ∨
        HasSucceeded kind (engine.respond tree action).state (engine.respond tree action).tree
          actions := by
  simp only [HasSucceeded, Responder.answers, List.zip_cons_cons, List.exists_mem_cons_iff]

/-- What has succeeded stays so when further actions follow. -/
theorem HasSucceeded.append {kind : EngineAction → Bool} {engine : Engine} {tree : FileTree}
    {actions : List EngineAction} (h : HasSucceeded kind engine tree actions)
    (later : List EngineAction) : HasSucceeded kind engine tree (actions ++ later) := by
  induction actions generalizing engine tree with
  | nil => simp [HasSucceeded] at h
  | cons action actions ih =>
    rw [List.cons_append, hasSucceeded_cons]
    exact ((hasSucceeded_cons kind engine tree action actions).1 h).imp_right ih

/-- What one action brings about if it succeeds, and none undoes, is there after a sequence of
actions if it was there before or one of them has brought it about. -/
theorem holds_reached (holds : Engine → Prop) (kind : EngineAction → Bool)
    (hstep : ∀ engine tree action, holds (respond engine tree action).state ↔
      holds engine ∨ (kind action = true ∧ (respond engine tree action).answer.isSuccess = true))
    (engine : Engine) (tree : FileTree) (actions : List EngineAction) :
    holds (Responder.reached respond engine tree actions).1 ↔
      holds engine ∨ HasSucceeded kind engine tree actions := by
  induction actions generalizing engine tree with
  | nil => simp [Responder.reached, HasSucceeded]
  | cons action actions ih =>
    rw [Responder.reached, ih, hstep, hasSucceeded_cons, or_assoc]

theorem isSuccess_prepared (result : Except RulesError Unit) (records : List Log.Record) :
    (EngineAnswer.prepared result records).isSuccess = true ↔ ∃ done, result = .ok done := by
  cases result <;> simp [EngineAnswer.isSuccess]

theorem isSome_root_init (engine : Engine) (tree : FileTree) :
    (engine.init tree).state.root.isSome = true ↔
      engine.root.isSome = true ∨ ∃ started, (engine.init tree).result = .ok started := by
  unfold init
  cases engine.findRoot tree with
  | error cause => simp
  | ok root => simp

theorem cache_init (engine : Engine) (tree : FileTree) :
    (engine.init tree).state.cache = engine.cache := by
  unfold init
  split <;> rfl

theorem isSome_cache_load (engine : Engine) (tree : FileTree) :
    (engine.load tree).state.cache.isSome = true ↔
      engine.cache.isSome = true ∨ ∃ loaded, (engine.load tree).result = .ok loaded := by
  unfold load
  dsimp only
  cases (engine.readRulesFile tree).result with
  | error cause => simp
  | ok rules => simp

theorem root_load (engine : Engine) (tree : FileTree) :
    (engine.load tree).state.root = engine.root := by
  unfold load
  dsimp only
  split <;> rfl

theorem isSome_root_respond (engine : Engine) (tree : FileTree) (action : EngineAction) :
    (engine.respond tree action).state.root.isSome = true ↔
      engine.root.isSome = true ∨ (action.settlesRoot = true ∧
        (engine.respond tree action).answer.isSuccess = true) := by
  cases action with
  | init => simpa [respond, EngineAction.settlesRoot, isSuccess_prepared] using
      engine.isSome_root_init tree
  | load | reload => simp [respond, Classifier.reload, root_load, EngineAction.settlesRoot]
  | classify request => simp [respond, Classifier.classify, EngineAction.settlesRoot]
  | print | edit change => simp [respond, EngineAction.settlesRoot]

theorem isSome_cache_respond (engine : Engine) (tree : FileTree) (action : EngineAction) :
    (engine.respond tree action).state.cache.isSome = true ↔
      engine.cache.isSome = true ∨ (action.loadsRules = true ∧
        (engine.respond tree action).answer.isSuccess = true) := by
  cases action with
  | init => simp [respond, cache_init, EngineAction.loadsRules]
  | load | reload =>
    have hload := engine.isSome_cache_load tree
    rw [← isSuccess_prepared _ (engine.load tree).records] at hload
    simp only [EngineAction.loadsRules, true_and]
    exact hload
  | classify request => simp [respond, Classifier.classify, EngineAction.loadsRules]
  | print | edit change => simp [respond, EngineAction.loadsRules]

/-! ## Requests -/

/-- Once it has rules to go by, a request that fails does so for a reason of its own. -/
theorem moveTo_ne_notInitialized (root : String) (process : Int32) (rule : Rule)
    (tree : FileTree) : (moveTo root process rule tree).result ≠ .error .notInitialized := by
  unfold moveTo
  dsimp only
  split
  · split <;> simp
  · simp

theorem moveAlong_ne_notInitialized (root : String) (process : Int32) (rules : RuleSet)
    (tree : FileTree) : (moveAlong root process rules tree).result ≠ .error .notInitialized := by
  induction rules generalizing tree with
  | nil => exact nofun
  | cons rule rules ih =>
    have hfirst := moveTo_ne_notInitialized root process rule tree
    rw [moveAlong_cons]
    dsimp only
    split
    · rename_i cause hcause
      rwa [hcause] at hfirst
    · exact ih _

theorem moveBy_ne_notInitialized (engine : Engine) (root : String) (rules : RuleSet)
    (request : ClassifyRequest) (tree : FileTree) :
    (engine.moveBy root rules request tree).result ≠ .error .notInitialized := by
  unfold moveBy
  split
  · exact nofun
  · exact moveAlong_ne_notInitialized _ _ _ _

/-- A request that does not use the cache is judged by the rules file as it is then. -/
theorem result_move_of_uncached (engine : Engine) (tree : FileTree) (request : ClassifyRequest)
    (root : String) (hroot : engine.root = some root) (huncached : request.useCache = false) :
    (engine.move tree request).result =
      match (engine.readRulesFile tree).result with
      | .error cause => .error (.rules cause)
      | .ok rules => (engine.moveBy root rules request tree).result := by
  simp only [move, hroot, rulesFor, huncached, Bool.false_eq_true, if_false]
  cases (engine.readRulesFile tree).result with
  | error cause => rfl
  | ok rules => rfl

theorem move_eq_notInitialized_iff (engine : Engine) (tree : FileTree)
    (request : ClassifyRequest) :
    (engine.move tree request).result = .error .notInitialized ↔
      engine.root.isSome = false ∨ (request.useCache = true ∧ engine.cache.isSome = false) := by
  cases hroot : engine.root with
  | none => simp [move, hroot]
  | some root =>
    cases huse : request.useCache with
    | true =>
      cases hcache : engine.cache with
      | none => simp [move, hroot, rulesFor, huse, hcache]
      | some rules =>
        simpa [move, hroot, rulesFor, huse, hcache] using
          engine.moveBy_ne_notInitialized root rules request tree
    | false =>
      rw [engine.result_move_of_uncached tree request root hroot huse]
      cases (engine.readRulesFile tree).result with
      | error cause => simp
      | ok rules => simpa using engine.moveBy_ne_notInitialized root rules request tree

/-- A request that is turned away has touched nothing. -/
theorem move_of_notInitialized (engine : Engine) (tree : FileTree) (request : ClassifyRequest)
    (h : (engine.move tree request).result = .error .notInitialized) :
    engine.move tree request = ⟨.error .notInitialized, tree, []⟩ := by
  rcases (engine.move_eq_notInitialized_iff tree request).1 h with hroot | ⟨huse, hcache⟩
  · have hnone : engine.root = none := by simpa using hroot
    simp only [move, hnone]
  · have hnone : engine.cache = none := by simpa using hcache
    cases hroot : engine.root with
    | none => simp only [move, hroot]
    | some root => simp only [move, hroot, rulesFor, huse, hnone, if_true]

/-! ## Sequences of actions -/

/-- How an engine answers requests once it has been asked for `actions`. -/
structure Readiness (engine : Engine) (tree : FileTree) (actions : List EngineAction) : Prop where
  turnedAway : ∀ request,
    let reached := Responder.reached respond engine tree actions
    (Classifier.classify reached.1 reached.2 request).result = .error .notInitialized ↔
      ¬HasSucceeded EngineAction.settlesRoot engine tree actions ∨
        (request.useCache = true ∧ ¬HasSucceeded EngineAction.loadsRules engine tree actions)
  untouched : ∀ request,
    let reached := Responder.reached respond engine tree actions
    let answer := Classifier.classify reached.1 reached.2 request
    answer.result = .error .notInitialized →
      answer = ⟨.error .notInitialized, reached.1, reached.2, []⟩
  lasting : HasSucceeded EngineAction.settlesRoot engine tree actions →
    HasSucceeded EngineAction.loadsRules engine tree actions → ∀ later request,
      let reached := Responder.reached respond engine tree (actions ++ later)
      (Classifier.classify reached.1 reached.2 request).result ≠ .error .notInitialized

/-- From a fresh engine, whatever is asked for and however the files change in between, a request
that uses the cache is turned away, and touches nothing, until a start and a load have succeeded.
From then on it never is, whatever fails later. A request that does not use the cache is turned away
until a start has succeeded. -/
theorem readiness_of_fresh (rulesFile : String) (configuredRoot : Option String)
    (identities : Identities) (tree : FileTree) (actions : List EngineAction) :
    Readiness { rulesFile, configuredRoot, identities } tree actions := by
  let engine : Engine := { rulesFile, configuredRoot, identities }
  have hroot (actions : List EngineAction) :
      (Responder.reached respond engine tree actions).1.root.isSome = true ↔
        HasSucceeded EngineAction.settlesRoot engine tree actions :=
    (holds_reached (·.root.isSome = true) _ isSome_root_respond engine tree actions).trans
      (by simp [engine])
  have hcache (actions : List EngineAction) :
      (Responder.reached respond engine tree actions).1.cache.isSome = true ↔
        HasSucceeded EngineAction.loadsRules engine tree actions :=
    (holds_reached (·.cache.isSome = true) _ isSome_cache_respond engine tree actions).trans
      (by simp [engine])
  have hturned (actions : List EngineAction) (request : ClassifyRequest) :
      ((Responder.reached respond engine tree actions).1.move
          (Responder.reached respond engine tree actions).2 request).result =
          .error .notInitialized ↔
        ¬HasSucceeded EngineAction.settlesRoot engine tree actions ∨
          (request.useCache = true ∧
            ¬HasSucceeded EngineAction.loadsRules engine tree actions) := by
    rw [move_eq_notInitialized_iff, ← hroot, ← hcache, Bool.not_eq_true, Bool.not_eq_true]
  refine ⟨hturned actions, ?_, ?_⟩
  · intro request reached answer hresult
    have hmove := reached.1.move_of_notInitialized reached.2 request hresult
    simp only [answer, Classifier.classify, hmove]
  · intro hrooted hloaded later request reached hresult
    rcases (hturned (actions ++ later) request).1 hresult with hnone | ⟨-, hnone⟩
    · exact hnone (hrooted.append later)
    · exact hnone (hloaded.append later)

/-- A process is moved before any load has succeeded if the request does not use the cache. -/
theorem uncached_request_moves_before_load :
    ¬∀ (rulesFile : String) (configuredRoot : Option String) (identities : Identities)
        (tree : FileTree) (actions : List EngineAction) (request : ClassifyRequest),
      let engine : Engine := { rulesFile, configuredRoot, identities }
      let reached := Responder.reached respond engine tree actions
      ¬(HasSucceeded EngineAction.settlesRoot engine tree actions ∧
          HasSucceeded EngineAction.loadsRules engine tree actions) →
        (Classifier.classify reached.1 reached.2 request).result = .error .notInitialized ∧
          (Classifier.classify reached.1 reached.2 request).tree = reached.2 := by
  intro hall
  let tree : FileTree := {
    entries := [(["cg"], .directory), (["cg", "g"], .directory),
      (["cg", "g", "cgroup.procs"], .file []),
      (["rules"], .file (Text.encode "* * g\n"))]
    workingDirectory := [] }
  have hmoved := hall "/rules" (some "/cg") ⟨[], []⟩ tree [.init] ⟨1, 1, 9, false⟩
    (by decide +kernel)
  exact absurd hmoved.1 (by decide +kernel)

end Engine

end Regroup
