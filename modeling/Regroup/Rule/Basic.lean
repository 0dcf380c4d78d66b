/-!
# Rules

A rule says which processes it applies to and which group of processes below the root they are
moved to. A continuation gives the rule before it one more destination.
-/

namespace Regroup

/-- Whom a rule applies to. The numbers were looked up when the rule was read. -/
inductive Subject where
  | user (name : String) (number : UInt32)
  | group (name : String) (number : UInt32) (members : List String)
  | anyone
deriving DecidableEq

namespace Subject

/-- A group is matched by its number or through the members that it lists. -/
def appliesTo (user group : UInt32) (userName : Option String) : Subject → Bool
  | .user _ number => number == user
  | .group _ number members =>
    number == group || userName.any fun name ↦ members.contains name
  | .anyone => true

def text : Subject → String
  | .user name _ => name
  | .group name _ _ => "@" ++ name
  | .anyone => "*"

end Subject

/-- The controllers named by a rule. They are informative: every controller of the destination
applies. -/
inductive Controllers where
  | all
  | named (names : List String)
deriving DecidableEq

def Controllers.text : Controllers → String
  | .all => "*"
  | .named names => ",".intercalate names

/-- The destination is a path relative to the root, and `line` counts from one. -/
structure Rule where
  subject : Subject
  controllers : Controllers
  destination : String
  continuation : Bool
  line : Nat
deriving DecidableEq

/-- Rules in the order of their lines. -/
abbrev RuleSet := List Rule

namespace RuleSet

/-- The first rule that applies, followed by its continuations. -/
def selection (rules : RuleSet) (user group : UInt32) (userName : Option String) : RuleSet :=
  let opens (rule : Rule) : Bool :=
    !rule.continuation && rule.subject.appliesTo user group userName
  match rules.dropWhile fun rule ↦ !opens rule with
  | [] => []
  | first :: rest => first :: rest.takeWhile Rule.continuation

end RuleSet

/-! ## Listing -/

/-- How a listing shows the numbers that a subject stands for. -/
def Subject.numbers : Subject → String × String
  | .user _ number => (toString number, "N/A")
  | .group _ number _ => ("N/A", toString number)
  | .anyone => ("any", "any")

def Rule.listing (rule : Rule) : String :=
  let subject := rule.subject.text
  let (user, group) := rule.subject.numbers
  (if rule.continuation then s!"Rule: % ({subject})\n" else s!"Rule: {subject}\n") ++
    s!"  UID: {user}\n  GID: {group}\n  DEST: /{rule.destination}\n" ++
    s!"  CONTROLLERS: {rule.controllers.text}\n\n"

def RuleSet.listing (rules : RuleSet) : String :=
  if rules.isEmpty then "No rules loaded.\n" else String.join (rules.map Rule.listing)

end Regroup
