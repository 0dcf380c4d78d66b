import Regroup.Pattern.Tree

/-!
# Sets of characters

A set is built from ranges by the operations on sets. Its `segments` are the same set as ranges in
order.
-/

namespace Regroup.Pattern

/-- `foldCase` adds the other case of every basic letter. -/
inductive CharacterSet where
  | none
  | range (low high : Char)
  | union (a b : CharacterSet)
  | intersection (a b : CharacterSet)
  | difference (a b : CharacterSet)
  | symmetricDifference (a b : CharacterSet)
  | complement (a : CharacterSet)
  | foldCase (a : CharacterSet)
deriving DecidableEq

def swapCase (c : Char) : Char :=
  if c.isLower then c.toUpper else c.toLower

namespace CharacterSet

def contains (c : Char) : CharacterSet → Bool
  | none => false
  | range low high => low ≤ c && c ≤ high
  | union a b => contains c a || contains c b
  | intersection a b => contains c a && contains c b
  | difference a b => contains c a && !contains c b
  | symmetricDifference a b => contains c a != contains c b
  | complement a => !contains c a
  | foldCase a => contains c a || contains (swapCase c) a

def single (c : Char) : CharacterSet :=
  range c c

def ofRanges (ranges : List (Char × Char)) : CharacterSet :=
  ranges.foldr (fun (low, high) set ↦ union (range low high) set) none

def unionAll (sets : List CharacterSet) : CharacterSet :=
  sets.foldr union none

def combine : SetOperation → CharacterSet → CharacterSet → CharacterSet
  | .intersection => intersection
  | .difference => difference
  | .symmetricDifference => symmetricDifference

def any : CharacterSet :=
  complement none

/-! ## Segments -/

/-- Numbers of characters between which a set does not change. -/
def borders : CharacterSet → List Nat
  | none => []
  | range low high => [low.toNat, high.toNat + 1]
  | union a b | intersection a b | difference a b | symmetricDifference a b =>
    borders a ++ borders b
  | complement a => borders a
  | foldCase a =>
    ['A'.toNat, 'Z'.toNat + 1, 'a'.toNat, 'z'.toNat + 1] ++ borders a ++
      (borders a).map (· + 32) ++ (borders a).map (· - 32)

def beyondLast : Nat := 0x110000

/-- The first character from a number on. -/
def characterFrom (n : Nat) : Char :=
  if 0xD800 ≤ n && n < 0xE000 then Char.ofNat 0xE000 else Char.ofNat n

/-- The parts of a set between consecutive borders, as the first number in each part and the first
one behind it. Parts that touch are one. -/
def segmentsBetween (set : CharacterSet) : List Nat → List (Nat × Nat)
  | low :: high :: borders =>
    let later := segmentsBetween set (high :: borders)
    if low < high && set.contains (characterFrom low) then
      match later with
      | (start, stop) :: segments =>
        if start = high then (low, stop) :: segments else (low, high) :: later
      | [] => [(low, high)]
    else later
  | _ => []

def segments (set : CharacterSet) : List (Nat × Nat) :=
  let within := (borders set).filter (· < beyondLast)
  segmentsBetween set ((0 :: within ++ [beyondLast]).mergeSort)

def isAscii (set : CharacterSet) : Bool :=
  (segments set).all fun segment ↦ segment.2 ≤ 0x80

end CharacterSet

/-! ## Named sets -/

def NamedSet.ranges : NamedSet → List (Char × Char)
  | alnum => [('0', '9'), ('A', 'Z'), ('a', 'z')]
  | alpha => [('A', 'Z'), ('a', 'z')]
  | ascii => [('\x00', '\x7F')]
  | blank => [('\t', '\t'), (' ', ' ')]
  | cntrl => [('\x00', '\x1F'), ('\x7F', '\x7F')]
  | digit => [('0', '9')]
  | graph => [('!', '~')]
  | lower => [('a', 'z')]
  | print => [(' ', '~')]
  | punct => [('!', '/'), (':', '@'), ('[', '\x60'), ('\x7b', '~')]
  | space => [('\t', '\r'), (' ', ' ')]
  | upper => [('A', 'Z')]
  | word => [('0', '9'), ('A', 'Z'), ('_', '_'), ('a', 'z')]
  | xdigit => [('0', '9'), ('A', 'F'), ('a', 'f')]

def NamedSet.set (s : NamedSet) : CharacterSet :=
  .ofRanges s.ranges

end Regroup.Pattern
