import Regroup.Pattern.Escape

/-!
# Sets between brackets

A set is written between brackets as a row of characters, ranges, named sets and further sets, which
together form a union. Two such rows with an operator between them are combined, and operators are
applied from left to right.
-/

namespace Regroup.Pattern

/-- An opening bracket, with the circumflex behind it if there is one. -/
structure Opening where
  span : Span
  negated : Bool
deriving DecidableEq

/-- What has been read since a bracket was opened: the items after the last operator, the last one
first, where they start, and what stands before that operator. -/
structure SetLevel where
  start : Position
  items : List SetTree := []
  operand : Option (SetOperation × SetTree) := none

namespace SetLevel

def add (level : SetLevel) (item : SetTree) : SetLevel :=
  { level with items := item :: level.items }

/-- The items as one set. -/
def union (level : SetLevel) : SetTree :=
  match level.items with
  | [] => .nothing ⟨level.start, level.start⟩
  | [item] => item
  | last :: before =>
    let items := (last :: before).reverse
    .union ⟨(items.headD last).span.start, last.span.stop⟩ items

/-- Everything that has been read as one set. -/
def close (level : SetLevel) : SetTree :=
  match level.operand with
  | none => level.union
  | some (kind, left) =>
    .operation ⟨left.span.start, level.union.span.stop⟩ kind left level.union

/-- The level behind an operator that ends at a position. -/
def operate (level : SetLevel) (kind : SetOperation) (position : Position) : SetLevel :=
  { start := position, operand := some (kind, level.close) }

end SetLevel

/-- A named set between colons in brackets of its own, if one begins at the cursor. -/
def namedSetAt? (cursor : Cursor) : Option (SetTree × Cursor) :=
  match cursor.rest with
  | '[' :: ':' :: text =>
    let negated := text.head? == some '^'
    let text := if negated then text.tail else text
    let name := text.takeWhile (· ≠ ':')
    match text.drop name.length, NamedSet.named? (String.ofList name) with
    | ':' :: ']' :: _, some s =>
      let length := 2 + (if negated then 1 else 0) + name.length + 2
      let cursor' := cursor.advanceBy length
      some (.named ⟨cursor.position, cursor'.position⟩ s negated, cursor')
    | _, _ => none
  | _ => none

/-- A part of a set that is one item of it. -/
def Primitive.item : Primitive → Reading SetTree
  | .literal l => return .literal l
  | .set s => return s
  | .dot span | .assertion span _ => Reading.fail .escapeInSet span

/-- A part of a set that is an end of a range. -/
def Primitive.bound (primitive : Primitive) : Reading Literal :=
  match primitive with
  | .literal l => return l
  | _ => Reading.fail .rangeWithoutLiteral primitive.span

namespace Reading

/-- Takes the character at the cursor literally. -/
def verbatim (move : Reading Unit) : Reading Literal := do
  let cursor ← get
  move
  return ⟨cursor.charSpan, cursor.rest.headD ' ', false⟩

/-- Reads the dashes at the start of a set. The cursor has to stay inside the pattern. -/
def dashes (start : Position) : Nat → Reading (List SetTree)
  | 0 => return []
  | fuel + 1 => do
    match ← peek? with
    | some '-' =>
      let dash ← verbatim step
      if (← peek?).isNone then fail .setUnclosed ⟨start, start⟩
      else return .literal dash :: (← dashes start fuel)
    | _ => return []

/-- A fault if the pattern has come to its end. -/
def expectMore (span : Reading Span) : Reading Unit := do
  if (← peek?).isNone then fail .setUnclosed (← span)

/-- Reads an opening bracket and the characters behind it that are literal only there. -/
def opening : Reading (Opening × SetLevel) := do
  let start ← position
  step
  expectMore (spanFrom start)
  let negated := (← peek?) == some '^'
  if negated then
    step
    expectMore (spanFrom start)
  let level : SetLevel := { start := ← position }
  let first ← dashes start (← get).rest.length
  let items ←
    if first.isEmpty && (← peek?) == some ']' then do
      let bracket ← verbatim step
      expectMore (spanFrom start)
      pure [SetTree.literal bracket]
    else pure first
  return (⟨← spanFrom start, negated⟩, { level with items := items.reverse })

def setPrimitive : Reading Primitive := do
  match ← peek? with
  | some '\\' => escape
  | _ => return .literal (← verbatim advance)

/-- Reads one item of a set. A dash makes a range, unless a bracket or another dash follows it. -/
def setItem (current : Opening) : Reading SetTree := do
  let first ← setPrimitive
  skipBlanks
  expectMore (pure current.span)
  let cursor ← get
  let further := cursor.peekFurther?
  if cursor.rest.head? ≠ some '-' || further = some ']' || further = some '-' then first.item
  else
    step
    expectMore (pure current.span)
    let second ← setPrimitive
    let low ← first.bound
    let high ← second.bound
    let span : Span := ⟨low.span.start, high.span.stop⟩
    if high.char < low.char then fail .rangeReversed span
    else return .range span low high

def operatorAt? : List Char → Option SetOperation
  | '&' :: '&' :: _ => some .intersection
  | '-' :: '-' :: _ => some .difference
  | '~' :: '~' :: _ => some .symmetricDifference
  | _ => none

/-- Reads a set up to its closing bracket. `outer` holds the brackets that are open around the
current one, with what was read in them before. -/
def setBehind (current : Opening) : Nat → SetLevel → List (Opening × SetLevel) → Reading SetTree
  | 0, _, _ => fail .setUnclosed current.span
  | fuel + 1, level, outer => do
    skipBlanks
    let cursor ← get
    match cursor.rest with
    | [] => fail .setUnclosed current.span
    | '[' :: _ =>
      match namedSetAt? cursor with
      | some (item, cursor) =>
        set cursor
        setBehind current fuel (level.add item) outer
      | none =>
        let (inner, innerLevel) ← opening
        setBehind inner fuel innerLevel ((current, level) :: outer)
    | ']' :: _ =>
      advance
      let whole : SetTree := .bracket (← spanFrom current.span.start) current.negated level.close
      match outer with
      | [] => return whole
      | (previous, previousLevel) :: outer =>
        setBehind previous fuel (previousLevel.add whole) outer
    | rest =>
      match operatorAt? rest with
      | some kind =>
        advance
        advance
        setBehind current fuel (level.operate kind (← position)) outer
      | none =>
        let item ← setItem current
        setBehind current fuel (level.add item) outer

/-- Reads a set, from its opening bracket on. -/
def bracket : Reading SetTree := do
  let (current, level) ← opening
  setBehind current (← get).rest.length level []

end Reading

end Regroup.Pattern
