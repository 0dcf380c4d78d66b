import Regroup.Pattern.Bracket
import Regroup.Text.Letter

/-!
# The reader of patterns

A pattern is a choice between sequences of parts. A part may be a group, which holds a pattern of
its own, and repetition operators apply to the part before them. Flags at the head of a group hold
for the group, flags alone for the rest of the group that they stand in.
-/

namespace Regroup.Pattern

/-- What has been read of a pattern or of a group: the sequences before the current one, and the
parts of the current one, both with the last one first. -/
structure Level where
  start : Position
  sequences : List Tree := []
  sequenceStart : Position
  parts : List Tree := []

namespace Level

def fresh (start : Position) : Level :=
  { start, sequenceStart := start }

def add (level : Level) (part : Tree) : Level :=
  { level with parts := part :: level.parts }

/-- The current sequence, which ends at a position. -/
def sequence (level : Level) (stop : Position) : Tree :=
  match level.parts with
  | [] => .empty ⟨level.sequenceStart, stop⟩
  | [part] => part
  | parts => .sequence ⟨level.sequenceStart, stop⟩ parts.reverse

/-- Everything that has been read up to a position. -/
def close (level : Level) (stop : Position) : Tree :=
  match level.sequences with
  | [] => level.sequence stop
  | before => .choice ⟨level.start, stop⟩ (level.sequence stop :: before).reverse

/-- Ends the current sequence before a bar, behind which the next one starts. -/
def branch (level : Level) (stop next : Position) : Level :=
  { level with
    sequences := level.sequence stop :: level.sequences
    sequenceStart := next
    parts := [] }

end Level

/-- A group that is open, with what was read before it. -/
structure OpenGroup where
  span : Span
  items : List FlagItem
  captures : Bool
  ignoredBlanks : Bool
  before : Level

/-- What has been read so far, with the names of groups and where they stand. -/
structure Outline where
  level : Level
  groups : List OpenGroup := []
  names : List (List Char × Span) := []

namespace Reading

/-! ## Groups and repetition -/

/-- Reads the name of a group up to its closing angle bracket. -/
def name : Reading (List Char × Span) := do
  let start ← position
  let cursor ← get
  match cursor.rest with
  | [] => fail .nameUnclosed cursor.emptySpan
  | '>' :: _ => fail .nameEmpty cursor.emptySpan
  | c :: _ =>
    if !(c = '_' || Text.isLetter c) then fail .nameInvalid cursor.charSpan
    else
      let letters ← collect (fun c ↦ ['_', '.', '[', ']'].contains c || Text.isLetterOrNumber c)
        Cursor.advance
      let cursor ← get
      match cursor.rest with
      | [] => fail .nameUnclosed cursor.emptySpan
      | '>' :: _ =>
        advance
        return (letters, ⟨start, cursor.position⟩)
      | _ => fail .nameInvalid cursor.charSpan

def flagItem : Reading FlagItem := do
  let cursor ← get
  match cursor.rest with
  | [] => fail .flagMissing cursor.emptySpan
  | '-' :: _ => return .negation
  | c :: _ =>
    match Mode.ofLetter? c with
    | some mode => return .mode mode
    | none => fail .flagUnknown cursor.charSpan

/-- Reads flags up to a colon or a closing parenthesis. No flag may be given twice. -/
def flagsBehind : Nat → List (FlagItem × Span) → Reading (List (FlagItem × Span))
  | 0, items => return items
  | fuel + 1, items => do
    let cursor ← get
    match cursor.rest with
    | ':' :: _ | ')' :: _ => return items
    | _ =>
      let item ← flagItem
      match items.lookup item with
      | some earlier =>
        let kind : FaultKind := if item = .negation then .negationRepeated else .flagRepeated
        fail kind cursor.charSpan (some earlier)
      | none =>
        advance
        flagsBehind fuel (items ++ [(item, cursor.charSpan)])

def flags : Reading (List FlagItem) := do
  let items ← flagsBehind ((← get).rest.length + 1) []
  match items.getLast? with
  | some (.negation, span) => fail .negationDangling span
  | _ => return items.map Prod.fst

/-- How many characters introduce looking around, if the cursor is at it. -/
def lookAroundLength? : List Char → Option Nat
  | '?' :: '=' :: _ | '?' :: '!' :: _ => some 2
  | '?' :: '<' :: '=' :: _ | '?' :: '<' :: '!' :: _ => some 3
  | _ => none

/-- How many characters introduce the name of a group, if the cursor is at it. -/
def nameIntroductionLength? : List Char → Option Nat
  | '?' :: 'P' :: '<' :: _ => some 3
  | '?' :: '<' :: _ => some 2
  | _ => none

/-- Opens a group whose head has been read. -/
def openGroup (outline : Outline) (span : Span) (items : List FlagItem) (captures : Bool) :
    Reading Outline := do
  let cursor ← get
  let group : OpenGroup := ⟨span, items, captures, cursor.ignoresBlanks, outline.level⟩
  set { cursor with
    ignoresBlanks := (setting? .ignoreBlanks items).getD cursor.ignoresBlanks : Cursor }
  return { outline with level := .fresh cursor.position, groups := group :: outline.groups }

/-- Sets flags for the rest of the current group. -/
def setFlags (outline : Outline) (span : Span) (items : List FlagItem) : Reading Outline := do
  modify fun cursor ↦
    { cursor with ignoresBlanks := (setting? .ignoreBlanks items).getD cursor.ignoresBlanks }
  return { outline with level := outline.level.add (.flags span items) }

/-- Reads flags and what ends them: a colon begins the group that they hold for. -/
def flagGroup (outline : Outline) (span inner : Span) : Reading Outline := do
  advance
  if (← peek?).isNone then fail .groupUnclosed span
  let items ← flags
  let ending ← peek?
  advance
  if ending = some ':' then openGroup outline span items false
  else if items.isEmpty then fail .nothingToRepeat inner
  else setFlags outline (← spanFrom span.start) items

def namedGroup (outline : Outline) (span : Span) (introduction : Nat) : Reading Outline := do
  modify (Cursor.advanceBy introduction)
  let (letters, place) ← name
  match outline.names.lookup letters with
  | some earlier => fail .nameRepeated place (some earlier)
  | none => openGroup { outline with names := (letters, place) :: outline.names } span [] true

/-- Reads the head of a group, from the opening parenthesis on. -/
def groupHead (outline : Outline) : Reading Outline := do
  let span := (← get).charSpan
  advance
  skipBlanks
  let cursor ← get
  match lookAroundLength? cursor.rest, nameIntroductionLength? cursor.rest with
  | some length, _ => fail .lookAround ⟨span.start, (cursor.advanceBy length).position⟩
  | none, some length => namedGroup outline span length
  | none, none =>
    if cursor.rest.head? = some '?' then flagGroup outline span cursor.emptySpan
    else openGroup outline span [] true

/-- Closes the innermost group, at the closing parenthesis. -/
def groupEnd (outline : Outline) : Reading Outline := do
  let cursor ← get
  match outline.groups with
  | [] => fail .groupUnopened cursor.charSpan
  | group :: groups =>
    let inner := outline.level.close cursor.position
    set { cursor with ignoresBlanks := group.ignoredBlanks : Cursor }
    advance
    let whole : Tree := .group (← spanFrom group.span.start) group.items group.captures inner
    return { outline with level := group.before.add whole, groups }

def bar (outline : Outline) : Reading Outline := do
  let stop ← position
  advance
  return { outline with level := outline.level.branch stop (← position) }

/-- The part that a repetition operator at the cursor applies to, and the parts before it. -/
def repeated (level : Level) : Reading (Tree × List Tree) := do
  match level.parts with
  | [] | .flags _ _ :: _ => fail .nothingToRepeat (← get).emptySpan
  | part :: parts => return (part, parts)

/-- A question mark behind a repetition operator only says which match is preferred. -/
def passQuestionMark : Reading Unit := do
  if (← peek?) = some '?' then advance

/-- Reads a repetition operator of one character. -/
def repetition (outline : Outline) (least : Nat) (most : Option Nat) : Reading Outline := do
  let (part, parts) ← repeated outline.level
  advance
  passQuestionMark
  let whole : Tree := .repetition (← spanFrom part.span.start) part least most
  return { outline with level := { outline.level with parts := whole :: parts } }

def maxCount : Nat := 4294967295

/-- Reads a number. A missing one is a fault only where a number is needed. -/
def count : Reading (Except Fault Nat) := do
  let _ ← collect Text.isBlank Cursor.advance
  let start ← position
  let digits ← collect Char.isDigit Cursor.step
  let span ← spanFrom start
  let _ ← collect Text.isBlank Cursor.step
  match Text.readNat maxCount digits with
  | .ok number => return .ok number
  | .error _ => return .error ⟨if digits.isEmpty then .countEmpty else .decimalInvalid, span, none⟩

/-- Reads what stands between braces: a number, or the least number with or without the most. -/
def countRange (start : Position) : Reading (Nat × Option Nat) := do
  step
  if (← peek?).isNone then fail .countUnclosed (← spanFrom start)
  let least ← count
  match ← peek? with
  | none => fail .countUnclosed (← spanFrom start)
  | some ',' =>
    step
    match ← peek? with
    | none => fail .countUnclosed (← spanFrom start)
    | some '\x7d' => return (← least, none)
    | some _ =>
      let least ← least
      let most ← (← count)
      return (least, some most)
  | some _ =>
    let number ← least
    return (number, some number)

/-- Reads a repetition whose numbers are given, from the opening brace on. -/
def countedRepetition (outline : Outline) : Reading Outline := do
  let start ← position
  let (part, parts) ← repeated outline.level
  let (least, most) ← countRange start
  if (← peek?) ≠ some '\x7d' then fail .countUnclosed (← spanFrom start)
  step
  passQuestionMark
  if most.any fun most ↦ most < least then fail .countReversed (← spanFrom start)
  let whole : Tree := .repetition (← spanFrom part.span.start) part least most
  return { outline with level := { outline.level with parts := whole :: parts } }

/-! ## Patterns -/

def primitive : Reading Primitive := do
  let cursor ← get
  match cursor.rest with
  | '\\' :: _ => escape
  | '.' :: _ =>
    advance
    return .dot cursor.charSpan
  | '^' :: _ =>
    advance
    return .assertion cursor.charSpan .lineStart
  | '$' :: _ =>
    advance
    return .assertion cursor.charSpan .lineEnd
  | _ => return .literal (← verbatim advance)

def add (outline : Outline) (part : Tree) : Outline :=
  { outline with level := outline.level.add part }

/-- Reads the next part of a pattern. -/
def part (outline : Outline) (c : Char) : Reading Outline :=
  match c with
  | '(' => groupHead outline
  | ')' => groupEnd outline
  | '|' => bar outline
  | '?' => repetition outline 0 (some 1)
  | '*' => repetition outline 0 none
  | '+' => repetition outline 1 none
  | '\x7b' => countedRepetition outline
  | '[' => return add outline (.set (← bracket))
  | _ => return add outline (← primitive).tree

/-- Reads the rest of a pattern. -/
def patternBehind : Nat → Outline → Reading Tree
  | 0, outline => return outline.level.close (← position)
  | fuel + 1, outline => do
    skipBlanks
    let cursor ← get
    match cursor.rest with
    | [] =>
      match outline.groups with
      | [] => return outline.level.close cursor.position
      | group :: _ => fail .groupUnclosed group.span
    | c :: _ => patternBehind fuel (← part outline c)

end Reading

/-- Reads a whole pattern. -/
def Tree.read (pattern : String) : Except Fault Tree := do
  let cursor := Cursor.ofPattern pattern
  let (tree, _) ← (Reading.patternBehind (cursor.rest.length + 1)
    { level := .fresh cursor.position }).run cursor
  match tree.tooDeep? maxDepth with
  | some span => throw { kind := .nestedTooDeeply, span }
  | none => return tree

end Regroup.Pattern
