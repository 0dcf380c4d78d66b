import Regroup.Pattern.CharacterSet

/-!
# Expressions and what they match

A text of `n` characters has `n + 1` places: one before each character and one behind the last. An
expression leads from some places of a text to others, and it occurs in the text if it leads
anywhere from any place. It acts on all places at once: a character moves them one further, a choice
unites what it leads to, and a repetition goes on until no new place is reached.
-/

namespace Regroup.Pattern

/-- A condition on the characters around a place. Words are made of basic letters, digits and low
lines, as there are no tables of those of other scripts; `wordOfAnyScript` asks for them. -/
inductive Look where
  | textStart
  | textEnd
  | lineStart
  | lineEnd
  | returnLineStart
  | returnLineEnd
  | wordBoundary
  | noWordBoundary
  | wordStart
  | wordEnd
  | wordStartHalf
  | wordEndHalf
  | wordOfAnyScript
deriving DecidableEq

def isWordCharacter (c : Char) : Bool :=
  c.isAlphanum || c = '_'

/-- Whether a condition holds between two characters. At the ends of a text one of them is
missing. A line ends at a line feed, or also at a carriage return, but not between the two. -/
def Look.holds (before after : Option Char) : Look → Bool
  | textStart => before.isNone
  | textEnd => after.isNone
  | lineStart => before.isNone || before = some '\n'
  | lineEnd => after.isNone || after = some '\n'
  | returnLineStart =>
    before.isNone || before = some '\n' || (before = some '\r' && after ≠ some '\n')
  | returnLineEnd =>
    after.isNone || after = some '\r' || (after = some '\n' && before ≠ some '\r')
  | wordBoundary => before.any isWordCharacter != after.any isWordCharacter
  | noWordBoundary => before.any isWordCharacter == after.any isWordCharacter
  | wordStart => !before.any isWordCharacter && after.any isWordCharacter
  | wordEnd => before.any isWordCharacter && !after.any isWordCharacter
  | wordStartHalf => !before.any isWordCharacter
  | wordEndHalf => !after.any isWordCharacter
  | wordOfAnyScript => false

/-- `most` is missing where there is no limit. A group only counts for the size. -/
inductive Expression where
  | empty
  | set (set : CharacterSet)
  | look (look : Look)
  | sequence (a b : Expression)
  | choice (a b : Expression)
  | repetition (least : Nat) (most : Option Nat) (a : Expression)
  | group (a : Expression)
deriving DecidableEq

/-! ## Places -/

/-- For each place of a text whether it is in the set. -/
abbrev Places := List Bool

namespace Places

def all (text : List Char) : Places :=
  List.replicate (text.length + 1) true

def union (a b : Places) : Places :=
  List.zipWith or a b

/-- The places behind a character of a set, from the places before it. -/
def afterCharacter (text : List Char) (set : CharacterSet) (places : Places) : Places :=
  false :: List.zipWith (fun isIn c ↦ isIn && set.contains c) places text

/-- For each place the characters before and after it. -/
def surroundings (text : List Char) : List (Option Char × Option Char) :=
  (none :: text.map some).zip (text.map some ++ [none])

/-- Those of some places where a condition holds. -/
def holding (text : List Char) (look : Look) (places : Places) : Places :=
  List.zipWith (fun isIn (before, after) ↦ isIn && look.holds before after) places
    (surroundings text)

/-- Applies a step a number of times, or until it changes nothing. -/
def iterate (step : Places → Places) : Nat → Places → Places
  | 0, places => places
  | count + 1, places =>
    let next := step places
    if next == places then places else iterate step count next

/-- The places that up to a number of steps lead to. -/
def within (step : Places → Places) (count : Nat) (places : Places) : Places :=
  iterate (fun reached ↦ union reached (step reached)) count places

end Places

namespace Expression

/-- The places that an expression leads to. In a text of `n` characters, places that can be reached
by repeating can be reached by repeating at most `n` times. -/
def reach (text : List Char) : Expression → Places → Places
  | empty, places => places
  | set s, places => Places.afterCharacter text s places
  | look l, places => Places.holding text l places
  | sequence a b, places => reach text b (reach text a places)
  | choice a b, places => Places.union (reach text a places) (reach text b places)
  | repetition least most a, places =>
    let count := (most.map (· - least)).getD text.length
    Places.within (reach text a) count (Places.iterate (reach text a) least places)
  | group a, places => reach text a places

/-- Whether an expression leads from some place of a text to another. -/
def occursIn (e : Expression) (text : String) : Bool :=
  (reach text.toList e (Places.all text.toList)).any id

/-- Whether an expression asks for tables that are not there. -/
def needsTables : Expression → Bool
  | look l => l = .wordOfAnyScript
  | empty | set _ => false
  | sequence a b | choice a b => needsTables a || needsTables b
  | repetition _ _ a | group a => needsTables a

/-- Whether an expression never leads on to another place. -/
def staysInPlace : Expression → Bool
  | empty | look _ => true
  | set _ => false
  | sequence a b | choice a b => staysInPlace a && staysInPlace b
  | repetition _ most a => most = some 0 || staysInPlace a
  | group a => staysInPlace a

/-! ## Size -/

/-- How many bytes a state takes, and besides each way on to another state: for a set of characters
the ways for its ranges, else the ways that are open. -/
def stateSize : Nat := 32
def rangeSize : Nat := 8
def waySize : Nat := 4

/-- Beyond the basic characters, forward states share what follows the first byte of a character and
backward states do not. -/
def wideSetSize (backward : Bool) (basicRanges : Nat) : Nat :=
  if backward then (28 + basicRanges) * stateSize + (8 + basicRanges) * waySize
  else 9 * stateSize + (15 + basicRanges) * rangeSize

def setSize (backward : Bool) (s : CharacterSet) : Nat :=
  let segments := s.segments
  let basic := segments.filter fun (low, _) ↦ low < 0x80
  match segments with
  | [(low, high)] =>
    if low + 1 = high then stateSize * (Char.ofNat low).utf8Size
    else if s.isAscii then 2 * stateSize
    else wideSetSize backward basic.length
  | _ =>
    if s.isAscii then 2 * stateSize + segments.length * rangeSize
    else wideSetSize backward basic.length

/-- The size of a state with two ways on. -/
def forkSize : Nat := stateSize + 2 * waySize

/-- How many bytes the states of an expression take. Only forward states take note of groups. -/
def size (backward : Bool) : Expression → Nat
  | empty => stateSize
  | set s => setSize backward s
  | look _ => stateSize
  | sequence a b => size backward a + size backward b
  | choice a b => size backward a + size backward b + forkSize + stateSize
  | repetition least none a => max least 1 * size backward a + forkSize
  | repetition least (some most) a =>
    if least = most then least * size backward a
    else most * size backward a + (most - least) * forkSize + stateSize
  | group a => size backward a + if backward then 0 else 2 * stateSize

end Expression

end Regroup.Pattern
