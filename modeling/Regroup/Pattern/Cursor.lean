import Regroup.Pattern.Fault
import Regroup.Text.Blank

/-!
# Reading a pattern

A cursor is a place in a pattern with the text from there on. Where blanks are ignored they are
skipped together with comments, which start at a number sign and end with the line.
-/

namespace Regroup.Pattern

structure Cursor where
  rest : List Char
  position : Position := {}
  ignoresBlanks : Bool := false
deriving DecidableEq

/-- Skips blanks and comments, possibly from inside a comment on. -/
def skipFrom : (inComment : Bool) → Position → List Char → Position × List Char
  | _, p, [] => (p, [])
  | true, p, c :: cs => skipFrom (c ≠ '\n') (p.after c) cs
  | false, p, c :: cs =>
    if Text.isBlank c then skipFrom false (p.after c) cs
    else if c = '#' then skipFrom true (p.after c) cs
    else (p, c :: cs)

namespace Cursor

def ofPattern (pattern : String) : Cursor :=
  { rest := pattern.toList }

/-- The span of nothing at the cursor. -/
def emptySpan (cursor : Cursor) : Span :=
  ⟨cursor.position, cursor.position⟩

/-- The span of the character at the cursor. -/
def charSpan (cursor : Cursor) : Span :=
  match cursor.rest with
  | [] => cursor.emptySpan
  | c :: _ => ⟨cursor.position, cursor.position.after c⟩

def advance (cursor : Cursor) : Cursor :=
  match cursor.rest with
  | [] => cursor
  | c :: cs => { cursor with rest := cs, position := cursor.position.after c }

def advanceBy : Nat → Cursor → Cursor
  | 0, cursor => cursor
  | count + 1, cursor => advanceBy count cursor.advance

def skipBlanks (cursor : Cursor) : Cursor :=
  if cursor.ignoresBlanks then
    let (position, rest) := skipFrom false cursor.position cursor.rest
    { cursor with rest, position }
  else cursor

/-- Goes past a character and the blanks behind it. -/
def step (cursor : Cursor) : Cursor :=
  cursor.advance.skipBlanks

/-- The next character but one. Blanks are passed over where they are ignored, and so is a number
sign, but not the comment that it begins. -/
def peekFurther? (cursor : Cursor) : Option Char :=
  let behind := cursor.rest.tail
  if cursor.ignoresBlanks then
    let visible :=
      match behind.dropWhile Text.isBlank with
      | '#' :: comment => comment.dropWhile Text.isBlank
      | visible => visible
    visible.head?.or behind.head?
  else behind.head?

/-- Collects the characters from the cursor on that satisfy a test, going on by a given move. -/
def collectFrom (test : Char → Bool) (move : Cursor → Cursor) :
    Nat → Cursor → List Char × Cursor
  | 0, cursor => ([], cursor)
  | fuel + 1, cursor =>
    match cursor.rest with
    | [] => ([], cursor)
    | c :: _ =>
      if test c then
        let (cs, cursor) := collectFrom test move fuel (move cursor)
        (c :: cs, cursor)
      else ([], cursor)

def collect (test : Char → Bool) (move : Cursor → Cursor) (cursor : Cursor) :
    List Char × Cursor :=
  collectFrom test move cursor.rest.length cursor

end Cursor

/-! ## Reading steps -/

/-- A step of reading moves the cursor or finds a fault. -/
abbrev Reading := StateT Cursor (Except Fault)

namespace Reading

def fail {α : Type} (kind : FaultKind) (span : Span) (earlier : Option Span := none) : Reading α :=
  throw ⟨kind, span, earlier⟩

def position : Reading Position :=
  return (← get).position

def peek? : Reading (Option Char) :=
  return (← get).rest.head?

/-- The span from a position up to the cursor. -/
def spanFrom (start : Position) : Reading Span :=
  return ⟨start, (← get).position⟩

def advance : Reading Unit :=
  modify Cursor.advance

def step : Reading Unit :=
  modify Cursor.step

def skipBlanks : Reading Unit :=
  modify Cursor.skipBlanks

def collect (test : Char → Bool) (move : Cursor → Cursor) : Reading (List Char) :=
  modifyGet (Cursor.collect test move)

end Reading

end Regroup.Pattern
