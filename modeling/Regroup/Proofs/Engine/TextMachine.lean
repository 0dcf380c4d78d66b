import Mathlib.Control.Monad.Basic
import Regroup.Engine
import Regroup.Proofs.Result

/-!
# The cached rules as a text

A machine that caches no rules keeps the text that it last loaded with success and reads it anew
whenever a request or a listing asks for the rules. An engine and such a machine cannot be told
apart: asked for the same things on the same files they give the same answers and leave the same
files, however the rules file changes in between and wherever a load fails.
-/

namespace Regroup

open Log (Record)

/-- What is asked of an engine, and any change that others make to the files. -/
inductive EngineAction where
  | init
  | load
  | reload
  | classify (request : ClassifyRequest)
  | print
  | edit (change : FileTree → FileTree)

inductive EngineAnswer where
  | prepared (result : Except RulesError Unit) (records : List Record)
  | classified (result : Except ClassifyError Unit) (records : List Record)
  | printed (listing : String)
  | edited

structure Response (σ : Type) where
  answer : EngineAnswer
  state : σ
  tree : FileTree

/-- A way of responding to actions. -/
abbrev Responder (σ : Type) := σ → FileTree → EngineAction → Response σ

namespace Responder

variable {σ : Type} (respond : Responder σ)

/-- The answers to a sequence of actions, each with the files as they are then. -/
def answers (state : σ) (tree : FileTree) : List EngineAction → List (EngineAnswer × FileTree)
  | [] => []
  | action :: actions =>
    let response := respond state tree action
    (response.answer, response.tree) :: answers response.state response.tree actions

/-- The state and the files at the end of a sequence of actions. -/
def reached (state : σ) (tree : FileTree) : List EngineAction → σ × FileTree
  | [] => (state, tree)
  | action :: actions =>
    let response := respond state tree action
    reached response.state response.tree actions

end Responder

namespace Engine

def respond (engine : Engine) (tree : FileTree) : EngineAction → Response Engine
  | .init =>
    let start := engine.init tree
    ⟨.prepared start.result start.records, start.state, tree⟩
  | .load =>
    let loading := engine.load tree
    ⟨.prepared loading.result loading.records, loading.state, tree⟩
  | .reload =>
    let loading := Classifier.reload engine tree
    ⟨.prepared loading.result loading.records, loading.state, tree⟩
  | .classify request =>
    let answer := Classifier.classify engine tree request
    ⟨.classified answer.result answer.records, answer.state, answer.tree⟩
  | .print => ⟨.printed (Classifier.listing engine), engine, tree⟩
  | .edit change => ⟨.edited, engine, change tree⟩

end Engine

/-! ## The machine that keeps a text -/

/-- `text` is what the last successful load has read. -/
structure TextMachine where
  rulesFile : String
  configuredRoot : Option String
  identities : Identities
  root : Option String := none
  text : Option (List Char) := none

namespace TextMachine

/-- An engine with the same settings that never holds rules. -/
def bare (machine : TextMachine) : Engine where
  rulesFile := machine.rulesFile
  configuredRoot := machine.configuredRoot
  identities := machine.identities
  root := machine.root

def read (machine : TextMachine) (text : List Char) : Engine.Loading :=
  machine.bare.readText text

def start (machine : TextMachine) (tree : FileTree) : Response TextMachine :=
  match machine.bare.findRoot tree with
  | .error cause => ⟨.prepared (.error cause) [], machine, tree⟩
  | .ok root =>
    ⟨.prepared (.ok ()) [⟨.debug, .engine, s!"Using cgroup root {root}"⟩],
      { machine with root := some root }, tree⟩

/-- Keeps the text of the rules file if it can be read as rules. -/
def load (machine : TextMachine) (tree : FileTree) : Response TextMachine :=
  match tree.readText machine.rulesFile with
  | .error cause =>
    ⟨.prepared (.error (.unreadable machine.rulesFile cause)) [], machine, tree⟩
  | .ok text =>
    let reading := machine.read text
    match reading.result with
    | .error cause => ⟨.prepared (.error cause) reading.records, machine, tree⟩
    | .ok rules =>
      let record : Record :=
        ⟨.debug, .engine, s!"Loaded {rules.length} rules from {machine.rulesFile}"⟩
      ⟨.prepared (.ok ()) (reading.records ++ [record]), { machine with text := some text }, tree⟩

/-- Judges a request by the rules of a text. -/
def judge (machine : TextMachine) (root : String) (text : List Char) (tree : FileTree)
    (request : ClassifyRequest) : Engine.Move :=
  match (machine.read text).result with
  | .error cause => ⟨.error (.rules cause), tree, []⟩
  | .ok rules => machine.bare.moveBy root rules request tree

/-- A request that uses the cache is judged by the text that is kept, any other by the text that the
rules file holds now. Reading the kept text again logs nothing. -/
def classify (machine : TextMachine) (tree : FileTree) (request : ClassifyRequest) : Engine.Move :=
  match machine.root with
  | none => ⟨.error .notInitialized, tree, []⟩
  | some root =>
    if request.useCache then
      match machine.text with
      | none => ⟨.error .notInitialized, tree, []⟩
      | some text => machine.judge root text tree request
    else
      match tree.readText machine.rulesFile with
      | .error cause => ⟨.error (.rules (.unreadable machine.rulesFile cause)), tree, []⟩
      | .ok text =>
        let move := machine.judge root text tree request
        { move with records := (machine.read text).records ++ move.records }

def listing (machine : TextMachine) : String :=
  match machine.text with
  | none => "Rules cache not initialized.\n"
  | some text =>
    match (machine.read text).result with
    | .error cause => cause.message
    | .ok rules => rules.listing

def respond (machine : TextMachine) (tree : FileTree) : EngineAction → Response TextMachine
  | .init => machine.start tree
  | .load | .reload => machine.load tree
  | .classify request =>
    let move := machine.classify tree request
    ⟨.classified move.result move.records, machine, move.tree⟩
  | .print => ⟨.printed machine.listing, machine, tree⟩
  | .edit change => ⟨.edited, machine, change tree⟩

/-! ## Agreement -/

/-- The engine has the settings of the machine, and its rules are those of the text. -/
inductive Agrees (machine : TextMachine) : Engine → Prop where
  | unloaded (htext : machine.text = none) : Agrees machine machine.bare
  | loaded (text : List Char) (rules : RuleSet) (htext : machine.text = some text)
      (hread : (machine.read text).result = .ok rules) :
      Agrees machine { machine.bare with cache := some rules }

variable {machine : TextMachine} {engine : Engine}

theorem Agrees.exists_cache (h : machine.Agrees engine) :
    ∃ cache, engine = { machine.bare with cache := cache } := by
  cases h with
  | unloaded => exact ⟨none, rfl⟩
  | loaded text rules => exact ⟨some rules, rfl⟩

theorem Agrees.withRoot (h : machine.Agrees engine) (root : String) :
    ({ machine with root := some root } : TextMachine).Agrees
      { engine with root := some root } := by
  cases h with
  | unloaded htext => exact .unloaded htext
  | loaded text rules htext hread => exact .loaded text rules htext hread

/-- The responses to an action are the same, and the machines agree afterwards. -/
structure Matches (response : Response TextMachine) (response' : Response Engine) : Prop where
  answer : response.answer = response'.answer
  tree : response.tree = response'.tree
  state : response.state.Agrees response'.state

theorem Agrees.start (h : machine.Agrees engine) (tree : FileTree) :
    Matches (machine.start tree) (engine.respond tree .init) := by
  obtain ⟨cache, hengine⟩ := h.exists_cache
  have hroot : engine.findRoot tree = machine.bare.findRoot tree := by
    rw [hengine]
    rfl
  simp only [TextMachine.start, Engine.respond, Engine.init, hroot]
  cases machine.bare.findRoot tree with
  | error cause => exact ⟨rfl, rfl, h⟩
  | ok root => exact ⟨rfl, rfl, h.withRoot root⟩

theorem Agrees.rulesFile_eq (h : machine.Agrees engine) :
    engine.rulesFile = machine.rulesFile := by
  obtain ⟨cache, hengine⟩ := h.exists_cache
  rw [hengine]
  rfl

theorem Agrees.root_eq (h : machine.Agrees engine) : engine.root = machine.root := by
  obtain ⟨cache, hengine⟩ := h.exists_cache
  rw [hengine]
  rfl

theorem Agrees.readText_eq (h : machine.Agrees engine) (text : List Char) :
    engine.readText text = machine.read text := by
  obtain ⟨cache, hengine⟩ := h.exists_cache
  rw [hengine]
  rfl

theorem Agrees.moveBy_eq (h : machine.Agrees engine) (root : String) (rules : RuleSet)
    (request : ClassifyRequest) (tree : FileTree) :
    engine.moveBy root rules request tree = machine.bare.moveBy root rules request tree := by
  obtain ⟨cache, hengine⟩ := h.exists_cache
  rw [hengine]
  rfl

theorem Agrees.load (h : machine.Agrees engine) (tree : FileTree) :
    Matches (machine.load tree) (engine.respond tree .load) := by
  unfold TextMachine.load Engine.respond Engine.load Engine.readRulesFile
  rw [h.rulesFile_eq]
  cases tree.readText machine.rulesFile with
  | error cause => exact ⟨rfl, rfl, h⟩
  | ok text =>
    simp only [h.readText_eq]
    cases hresult : (machine.read text).result with
    | error cause => exact ⟨rfl, rfl, h⟩
    | ok rules =>
      obtain ⟨cache, hengine⟩ := h.exists_cache
      refine ⟨rfl, rfl, ?_⟩
      rw [hengine]
      exact .loaded text rules rfl hresult

theorem Agrees.classify (h : machine.Agrees engine) (tree : FileTree) (request : ClassifyRequest) :
    machine.classify tree request = engine.move tree request := by
  unfold TextMachine.classify Engine.move
  rw [h.root_eq]
  cases machine.root with
  | none => rfl
  | some root =>
    dsimp only
    cases huse : request.useCache with
    | true =>
      cases h with
      | unloaded htext =>
        simp only [htext, Engine.rulesFor, if_true]
        rfl
      | loaded text rules htext hread =>
        simp only [htext, Engine.rulesFor, judge, hread, if_true, List.nil_append]
        rfl
    | false =>
      simp only [Engine.rulesFor, Engine.readRulesFile, h.rulesFile_eq, Bool.false_eq_true,
        if_false]
      cases tree.readText machine.rulesFile with
      | error cause => rfl
      | ok text =>
        simp only [h.readText_eq, judge]
        cases hresult : (machine.read text).result with
        | error cause => simp only [Except.mapError, List.append_nil]
        | ok rules => simp only [Except.mapError, h.moveBy_eq]

theorem Agrees.listing (h : machine.Agrees engine) : machine.listing = engine.listing := by
  cases h with
  | unloaded htext =>
    simp only [TextMachine.listing, htext]
    rfl
  | loaded text rules htext hread =>
    simp only [TextMachine.listing, htext, hread]
    rfl

/-- Whatever is asked, a machine and an engine that agree respond alike and go on to agree. -/
theorem Agrees.respond (h : machine.Agrees engine) (tree : FileTree) (action : EngineAction) :
    Matches (machine.respond tree action) (engine.respond tree action) := by
  cases action with
  | init => exact h.start tree
  | load => exact h.load tree
  | reload => exact h.load tree
  | classify request =>
    have hmove := h.classify tree request
    refine ⟨?_, ?_, h⟩
    · simp only [TextMachine.respond, hmove]
      rfl
    · simp only [TextMachine.respond, hmove]
      rfl
  | print => exact ⟨congrArg _ h.listing, rfl, h⟩
  | edit change => exact ⟨rfl, rfl, h⟩

theorem Agrees.answers (h : machine.Agrees engine) (tree : FileTree) (actions : List EngineAction) :
    Responder.answers TextMachine.respond machine tree actions =
      Responder.answers Engine.respond engine tree actions := by
  induction actions generalizing machine engine tree with
  | nil => rfl
  | cons action actions ih =>
    have hstep := h.respond tree action
    simp only [Responder.answers]
    rw [hstep.answer, hstep.tree, ih hstep.state]

theorem Agrees.reached (h : machine.Agrees engine) (tree : FileTree) (actions : List EngineAction) :
    (Responder.reached TextMachine.respond machine tree actions).1.Agrees
        (Responder.reached Engine.respond engine tree actions).1 ∧
      (Responder.reached TextMachine.respond machine tree actions).2 =
        (Responder.reached Engine.respond engine tree actions).2 := by
  induction actions generalizing machine engine tree with
  | nil => exact ⟨h, rfl⟩
  | cons action actions ih =>
    have hstep := h.respond tree action
    simp only [Responder.reached]
    rw [hstep.tree]
    exact ih hstep.state _

/-- While the file holds the text that is kept, the cache makes no difference. -/
theorem Agrees.move_eq_of_current (h : machine.Agrees engine) (tree : FileTree) (text : List Char)
    (htext : machine.text = some text) (hfile : tree.readText machine.rulesFile = .ok text)
    (user group : UInt32) (process : Int32) :
    (engine.move tree ⟨user, group, process, true⟩).result =
        (engine.move tree ⟨user, group, process, false⟩).result ∧
      (engine.move tree ⟨user, group, process, true⟩).tree =
        (engine.move tree ⟨user, group, process, false⟩).tree := by
  rw [← h.classify, ← h.classify]
  unfold TextMachine.classify
  cases machine.root with
  | none => exact ⟨rfl, rfl⟩
  | some root =>
    simp only [htext, hfile, if_true, Bool.false_eq_true, if_false, judge]
    cases (machine.read text).result with
    | error cause => exact ⟨rfl, rfl⟩
    | ok rules => exact ⟨rfl, rfl⟩

end TextMachine

/-- What the cache of an engine is to a text: loads that fail and requests leave it alone, and it
only shows where the file holds another text. -/
structure Engine.Keeps (engine : Engine) (tree : FileTree) (text : Option (List Char)) : Prop where
  failedLoad : ∀ cause, (engine.load tree).result = .error cause →
    (engine.load tree).state = engine
  failedReload : ∀ cause, (Classifier.reload engine tree).result = .error cause →
    (Classifier.reload engine tree).state = engine
  request : ∀ request, (Classifier.classify engine tree request).state = engine
  current : ∀ held, text = some held → tree.readText engine.rulesFile = .ok held →
    ∀ user group process,
      (Classifier.classify engine tree ⟨user, group, process, true⟩).result =
          (Classifier.classify engine tree ⟨user, group, process, false⟩).result ∧
        (Classifier.classify engine tree ⟨user, group, process, true⟩).tree =
          (Classifier.classify engine tree ⟨user, group, process, false⟩).tree

theorem Engine.load_of_failure (engine : Engine) (tree : FileTree) (cause : RulesError)
    (h : (engine.load tree).result = .error cause) : (engine.load tree).state = engine := by
  unfold load at h ⊢
  dsimp only at h ⊢
  cases hresult : (engine.readRulesFile tree).result with
  | error found => rfl
  | ok rules =>
    rw [hresult] at h
    cases h

/-- An engine that starts without rules answers as the machine that keeps nothing but a text, in any
sequence of actions, and at every point of it the cache stands for that text. -/
theorem Engine.answers_eq_textMachine (rulesFile : String) (configuredRoot : Option String)
    (identities : Identities) (tree : FileTree) (actions : List EngineAction) :
    let engine : Engine := { rulesFile, configuredRoot, identities }
    let machine : TextMachine := { rulesFile, configuredRoot, identities }
    let reached := Responder.reached Engine.respond engine tree actions
    let kept := (Responder.reached TextMachine.respond machine tree actions).1.text
    Responder.answers Engine.respond engine tree actions =
        Responder.answers TextMachine.respond machine tree actions ∧
      Engine.Keeps reached.1 reached.2 kept := by
  intro engine machine reached kept
  have hstart : machine.Agrees engine := .unloaded rfl
  have hagrees := (hstart.reached tree actions).1
  refine ⟨(hstart.answers tree actions).symm, ?_, ?_, fun _ ↦ rfl, ?_⟩
  · exact fun cause h ↦ reached.1.load_of_failure reached.2 cause h
  · exact fun cause h ↦ reached.1.load_of_failure reached.2 cause h
  · intro held htext hfile user group process
    rw [hagrees.rulesFile_eq] at hfile
    exact hagrees.move_eq_of_current reached.2 held htext hfile user group process

/-- A rules file that is spoiled, reloaded and mended again. -/
theorem Engine.answers_eq_textMachine_after_failed_reload :
    let tree : FileTree := {
      entries := [(["cg"], .directory), (["cg", "g"], .directory),
        (["cg", "g", "cgroup.procs"], .file []),
        (["rules"], .file (Text.encode "* * g\n"))]
      workingDirectory := [] }
    let engine : Engine :=
      { rulesFile := "/rules", configuredRoot := some "/cg", identities := ⟨[], []⟩ }
    let write (text : String) (tree : FileTree) := tree.put ["rules"] (.file (Text.encode text))
    let spoiled := Responder.reached Engine.respond engine tree
      [.init, .load, .edit (write "* *\n")]
    let mended := Responder.reached Engine.respond engine tree
      [.init, .load, .edit (write "* *\n"), .reload, .edit (write "* * g\n")]
    (Classifier.reload spoiled.1 spoiled.2).state = spoiled.1 ∧
      (Classifier.classify mended.1 mended.2 ⟨1, 1, 9, true⟩).result = .ok () ∧
      (Classifier.classify mended.1 mended.2 ⟨1, 1, 9, true⟩).tree =
        (Classifier.classify mended.1 mended.2 ⟨1, 1, 9, false⟩).tree := by
  intro tree engine write spoiled mended
  have hspoiled := (Engine.answers_eq_textMachine "/rules" (some "/cg") ⟨[], []⟩ tree
    [.init, .load, .edit (write "* *\n")]).2
  have hmended := (Engine.answers_eq_textMachine "/rules" (some "/cg") ⟨[], []⟩ tree
    [.init, .load, .edit (write "* *\n"), .reload, .edit (write "* * g\n")]).2
  have hfailure : (Classifier.reload spoiled.1 spoiled.2).result =
      .error (.malformed "/rules" 1 (RuleFault.fieldCount 2).reason) := by decide +kernel
  have hkept := hmended.current "* * g\n".toList (by decide +kernel) (by decide +kernel) 1 1 9
  exact ⟨hspoiled.failedReload _ hfailure, by decide +kernel, hkept.2⟩

end Regroup
