import Regroup.Pattern.Meaning
import Regroup.Pattern.Reader

/-!
# From the text of a pattern to its expression
-/

namespace Regroup.Pattern

/-- Why a pattern cannot be used. -/
inductive Refusal where
  | faulty (fault : Fault)
  | withoutTables
  | tooLarge
deriving DecidableEq

/-- How many bytes the states of a pattern may take. -/
def maxSize : Nat := 10485760

/-- Besides its own states an expression needs those that look for it at every place and those that
note where it begins and ends. -/
def totalSize (e : Expression) (backward : Bool) : Nat :=
  (Expression.group e).size backward + Expression.forkSize + 3 * Expression.stateSize

def Refusal.message (pattern : String) : Refusal → String
  | faulty fault => fault.report pattern
  | withoutTables => "error building NFA"
  | tooLarge => s!"Compiled regex exceeds size limit of {maxSize} bytes."

/-- The expression that a pattern stands for. -/
def compile (pattern : String) : Except Refusal Expression := do
  let tree ← (Tree.read pattern).mapError .faulty
  let (e, _) ← (tree.meaning {}).mapError .faulty
  if [false, true].any fun backward ↦ maxSize < totalSize e backward then throw .tooLarge
  if e.needsTables then throw .withoutTables
  return e

end Regroup.Pattern
