import Regroup.Cgroup
import Regroup.Classifier
import Regroup.Rule.Reader

/-!
# The rules engine

The engine classifies by a rules file. `init` settles the root of the hierarchy and `load` reads the
rules into the cache; until both have succeeded every request fails. A request that does not use the
cache reads the rules file anew and leaves the cache alone.

A request follows the destinations of the selected rules one by one and stops at the first that
fails. Destinations before it have been written to by then.
-/

namespace Regroup

open Log (Record)

structure Engine where
  rulesFile : String
  configuredRoot : Option String
  identities : Identities
  root : Option String := none
  cache : Option RuleSet := none
deriving DecidableEq

namespace Engine

/-- The configured root if there is one, else the detected one, which has to be a directory. -/
def findRoot (engine : Engine) (tree : FileTree) : Except RulesError String := do
  let root ←
    match engine.configuredRoot with
    | some root => .ok root
    | none => (MountTable.detectRoot tree).mapError .mountTable
  if tree.isDirectory root then .ok root else .error (.rootMissing root)

def init (engine : Engine) (tree : FileTree) : Reload Engine :=
  match engine.findRoot tree with
  | .error cause => ⟨.error cause, engine, []⟩
  | .ok root =>
    ⟨.ok (), { engine with root := some root }, [⟨.debug, .engine, s!"Using cgroup root {root}"⟩]⟩

/-! ## Loading rules -/

structure Loading where
  result : Except RulesError RuleSet
  records : List Record

/-- The rules that a text holds, with errors that name the rules file. -/
def readText (engine : Engine) (text : List Char) : Loading :=
  let reading := RuleSet.read engine.identities engine.rulesFile text
  ⟨reading.result.mapError fun (line, fault) ↦ .malformed engine.rulesFile line fault.reason,
    reading.records⟩

/-- Reads the rules file without touching the cache. -/
def readRulesFile (engine : Engine) (tree : FileTree) : Loading :=
  match tree.readText engine.rulesFile with
  | .error cause => ⟨.error (.unreadable engine.rulesFile cause), []⟩
  | .ok text => engine.readText text

/-- Reads the rules file into the cache. A failure keeps the rules that are there. -/
def load (engine : Engine) (tree : FileTree) : Reload Engine :=
  let loading := engine.readRulesFile tree
  match loading.result with
  | .error cause => ⟨.error cause, engine, loading.records⟩
  | .ok rules =>
    let record : Record :=
      ⟨.debug, .engine, s!"Loaded {rules.length} rules from {engine.rulesFile}"⟩
    ⟨.ok (), { engine with cache := some rules }, loading.records ++ [record]⟩

/-! ## Requests -/

structure Move where
  result : Except ClassifyError Unit
  tree : FileTree
  records : List Record

/-- Moves a process to the destination of one rule. -/
def moveTo (root : String) (process : Int32) (rule : Rule) (tree : FileTree) : Move :=
  let path := Path.join root rule.destination
  if tree.isDirectory path then
    match Cgroup.attach tree path process with
    | .error cause => ⟨.error (.attach process path cause), tree, []⟩
    | .ok tree =>
      ⟨.ok (), tree,
        [⟨.debug, .engine, s!"Moved PID {process} to {path} (rule at line {rule.line})"⟩]⟩
  else ⟨.error (.destinationMissing path), tree, []⟩

/-- Moves a process to the destinations of several rules, up to the first failure. -/
def moveAlong (root : String) (process : Int32) : RuleSet → FileTree → Move
  | [], tree => ⟨.ok (), tree, []⟩
  | rule :: rules, tree =>
    let move := moveTo root process rule tree
    match move.result with
    | .error cause => ⟨.error cause, move.tree, move.records⟩
    | .ok _ =>
      let rest := moveAlong root process rules move.tree
      ⟨rest.result, rest.tree, move.records ++ rest.records⟩

/-- The rules that a request is judged by. -/
def rulesFor (engine : Engine) (tree : FileTree) (useCache : Bool) :
    Except ClassifyError RuleSet × List Record :=
  if useCache then
    (match engine.cache with
      | some rules => .ok rules
      | none => .error .notInitialized, [])
  else
    let loading := engine.readRulesFile tree
    (loading.result.mapError .rules, loading.records)

/-- The rules that apply to the process of a request. -/
def selectionFor (engine : Engine) (rules : RuleSet) (request : ClassifyRequest) : RuleSet :=
  rules.selection request.user request.group (engine.identities.userName? request.user)

def moveBy (engine : Engine) (root : String) (rules : RuleSet) (request : ClassifyRequest)
    (tree : FileTree) : Move :=
  match engine.selectionFor rules request with
  | [] =>
    let message := s!"No rule for UID {request.user}, GID {request.group}, " ++
      s!"leaving PID {request.process} alone"
    ⟨.ok (), tree, [⟨.debug, .engine, message⟩]⟩
  | selected => moveAlong root request.process selected tree

/-- Moves the process of a request to where the rules want it. The engine itself stays as it is. -/
def move (engine : Engine) (tree : FileTree) (request : ClassifyRequest) : Move :=
  match engine.root with
  | none => ⟨.error .notInitialized, tree, []⟩
  | some root =>
    match engine.rulesFor tree request.useCache with
    | (.error cause, records) => ⟨.error cause, tree, records⟩
    | (.ok rules, records) =>
      let move := engine.moveBy root rules request tree
      { move with records := records ++ move.records }

def listing (engine : Engine) : String :=
  match engine.cache with
  | some rules => rules.listing
  | none => "Rules cache not initialized.\n"

instance : Classifier Engine where
  classify engine tree request :=
    let move := engine.move tree request
    ⟨move.result, engine, move.tree, move.records⟩
  reload := load
  listing := listing

end Engine

end Regroup
