/-!
# Splitting texts

Lines end in a line feed, so a text that ends in one has no further line. `before` and
`splitOnce` cut at the first occurrence of a separator.
-/

namespace Regroup.Text

variable {α : Type} [BEq α]

/-- The pieces between line feeds, without an empty last one. -/
def linesAt (feed : α) (xs : List α) : List (List α) :=
  let pieces := xs.splitOn feed
  if (pieces.getLast?.getD []).isEmpty then pieces.dropLast else pieces

/-- The part before the first separator, everything if there is none. -/
def before (sep : α) (xs : List α) : List α :=
  xs.takeWhile (· != sep)

/-- What precedes and what follows the first occurrence of a pattern. -/
def splitOnce (pattern : List α) : List α → Option (List α × List α)
  | [] => if pattern.isEmpty then some ([], []) else none
  | x :: xs =>
    if pattern.isPrefixOf (x :: xs) then some ([], (x :: xs).drop pattern.length)
    else (splitOnce pattern xs).map fun (left, right) ↦ (x :: left, right)

end Regroup.Text
