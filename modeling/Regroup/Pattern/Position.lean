/-!
# Positions in a pattern

Positions count lines and, in each line, characters. A span reaches from a position up to another
one and is empty if the two are the same.
-/

namespace Regroup.Pattern

/-- Lines and columns count from one. -/
structure Position where
  line : Nat := 1
  column : Nat := 1
deriving DecidableEq

namespace Position

/-- The position behind a character. -/
def after (p : Position) (c : Char) : Position :=
  if c = '\n' then ⟨p.line + 1, 1⟩ else ⟨p.line, p.column + 1⟩

def isBefore (p q : Position) : Bool :=
  p.line < q.line || (p.line = q.line && p.column < q.column)

end Position

structure Span where
  start : Position
  stop : Position
deriving DecidableEq

namespace Span

def isOneLine (s : Span) : Bool :=
  s.start.line = s.stop.line

/-- How many characters a span on one line covers. -/
def width (s : Span) : Nat :=
  s.stop.column - s.start.column

end Span

end Regroup.Pattern
