import Regroup.Rule.Basic
import Regroup.Identity
import Regroup.Path
import Regroup.Text.Blank
import Regroup.Text.Numeral
import Regroup.Text.Split
import Regroup.Log.Record

/-!
# Reading rules

What precedes the first `#` of a line is either blank or three fields: who, the controllers and the
destination. Who is a user, a group after `@`, everyone as `*`, or `%` for one more destination of
the rule above. A rule whose subject does not exist is left out with a warning, together with the
continuations that follow it; any other fault ends the reading at its line.
-/

namespace Regroup

open Log (Record)

/-- What can be wrong with a line of a rules file. -/
inductive RuleFault where
  | fieldCount (count : Nat)
  | leavesRoot (destination : String)
  | nothingToContinue
  | processName (who : String)
  | emptyGroupName
deriving DecidableEq

def RuleFault.reason : RuleFault → String
  | fieldCount count =>
    s!"expected `<who> <controllers> <destination>`, found {count} fields"
  | leavesRoot destination => s!"destination {destination} leaves the cgroup root"
  | nothingToContinue => "`%` does not follow another rule"
  | processName who => s!"process name rules are not supported: {who}"
  | emptyGroupName => "empty group name"

/-! ## Fields -/

/-- The fields of a line, none where the line is blank up to its comment. -/
def ruleFields (line : List Char) : List (List Char) :=
  Text.fields (Text.before '#' line)

/-- Leading slashes are dropped, so a destination is always relative. -/
def readDestination (field : List Char) : Except RuleFault String :=
  let destination := String.ofList (field.dropWhile (· == '/'))
  if Path.climbs destination then .error (.leavesRoot (String.ofList field)) else .ok destination

def readControllers (field : List Char) : Controllers :=
  if field = ['*'] then .all
  else
    .named (((field.splitOn ',').filter fun name ↦ !name.isEmpty).map String.ofList)

/-- A group that is given by a number need not exist. -/
def readGroup (ids : Identities) (name : List Char) : Option Subject :=
  match Text.readUInt32? name with
  | some number =>
    let members := (ids.groupNumbered? number).elim [] Group.members
    some (.group (String.ofList name) number members)
  | none =>
    (ids.groupNamed? (String.ofList name)).map fun group ↦
      .group (String.ofList name) group.number group.members

/-- A user that is given by a number need not exist. -/
def readUser (ids : Identities) (name : List Char) : Option Subject :=
  let number? := (Text.readUInt32? name).or (ids.userNumber? (String.ofList name))
  number?.map fun number ↦ .user (String.ofList name) number

/-- The subject that a field names, `none` for one that does not exist. -/
def readSubject (ids : Identities) (who : List Char) : Except RuleFault (Option Subject) :=
  if who = ['*'] then .ok (some .anyone)
  else if who.contains ':' then .error (.processName (String.ofList who))
  else
    match who with
    | ['@'] => .error .emptyGroupName
    | '@' :: name => .ok (readGroup ids name)
    | name => .ok (readUser ids name)

/-! ## Lines -/

/-- A line of a rules file on its own. The subject of a head is missing if it does not exist. -/
inductive RuleLine where
  | blank
  | head (who : String) (subject : Option Subject) (controllers : Controllers)
      (destination : String)
  | continuation (controllers : Controllers) (destination : String)
deriving DecidableEq

/-- The destination is judged before the subject; `follows` says whether some rule stands above. -/
def readRuleLine (ids : Identities) (follows : Bool) (line : List Char) :
    Except RuleFault RuleLine :=
  match ruleFields line with
  | [] => .ok .blank
  | [who, controllers, destination] => do
    let destination ← readDestination destination
    let controllers := readControllers controllers
    if who = ['%'] then
      if follows then .ok (.continuation controllers destination) else .error .nothingToContinue
    else
      let subject ← readSubject ids who
      .ok (.head (String.ofList who) subject controllers destination)
  | fields => .error (.fieldCount fields.length)

/-- The line number and the fault that ended the reading. -/
abbrev LineFault := Nat × RuleFault

structure RuleReading where
  result : Except LineFault RuleSet
  records : List Record

def RuleReading.cons (rule : Rule) (reading : RuleReading) : RuleReading :=
  { reading with result := reading.result.map (rule :: ·) }

def unknownSubjectRecord (path : String) (line : Nat) (who : String) : Record :=
  ⟨.warn, .rules, s!"{path}:{line}: skipping rule for unknown subject {who}"⟩

/-- Reads lines from number `line` on. `above` is the subject of the last head above, which is
missing if that head names an unknown subject. -/
def readRules (ids : Identities) (path : String) (line : Nat) (above : Option (Option Subject)) :
    List (List Char) → RuleReading
  | [] => ⟨.ok [], []⟩
  | text :: rest =>
    match readRuleLine ids above.isSome text with
    | .error fault => ⟨.error (line, fault), []⟩
    | .ok .blank => readRules ids path (line + 1) above rest
    | .ok (.continuation controllers destination) =>
      let reading := readRules ids path (line + 1) above rest
      match above.join with
      | some subject => reading.cons ⟨subject, controllers, destination, true, line⟩
      | none => reading
    | .ok (.head who subject controllers destination) =>
      let reading := readRules ids path (line + 1) (some subject) rest
      match subject with
      | some subject => reading.cons ⟨subject, controllers, destination, false, line⟩
      | none =>
        { reading with records := unknownSubjectRecord path line who :: reading.records }

/-- Reads the text of a rules file; `path` names it in warnings. -/
def RuleSet.read (ids : Identities) (path : String) (text : List Char) : RuleReading :=
  readRules ids path 1 none (Text.linesAt '\n' text)

end Regroup
