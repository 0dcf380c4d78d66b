import Regroup.Pattern.Position

/-!
# The structure of a pattern

A tree is a pattern as it was written. Every part knows where it stands.
-/

namespace Regroup.Pattern

/-- One character. A character written as `\x` and two digits stands for a byte where the pattern is
about bytes. -/
structure Literal where
  span : Span
  char : Char
  isByte : Bool := false
deriving DecidableEq

inductive NamedSet where
  | alnum
  | alpha
  | ascii
  | blank
  | cntrl
  | digit
  | graph
  | lower
  | print
  | punct
  | space
  | upper
  | word
  | xdigit
deriving DecidableEq

def NamedSet.named? (name : String) : Option NamedSet :=
  match name with
  | "alnum" => some alnum
  | "alpha" => some alpha
  | "ascii" => some ascii
  | "blank" => some blank
  | "cntrl" => some cntrl
  | "digit" => some digit
  | "graph" => some graph
  | "lower" => some lower
  | "print" => some print
  | "punct" => some punct
  | "space" => some space
  | "upper" => some upper
  | "word" => some word
  | "xdigit" => some xdigit
  | _ => none

/-- A property of characters, with the value that it should have. -/
structure Property where
  name : String
  value : Option String := none
deriving DecidableEq

inductive SetOperation where
  | intersection
  | difference
  | symmetricDifference
deriving DecidableEq

/-- A `shorthand` is a named set that an escape of one letter stands for. -/
inductive SetTree where
  | nothing (span : Span)
  | literal (literal : Literal)
  | range (span : Span) (low high : Literal)
  | named (span : Span) (set : NamedSet) (negated : Bool)
  | shorthand (span : Span) (set : NamedSet) (negated : Bool)
  | property (span : Span) (property : Property)
  | bracket (span : Span) (negated : Bool) (inner : SetTree)
  | union (span : Span) (items : List SetTree)
  | operation (span : Span) (kind : SetOperation) (left right : SetTree)

def SetTree.span : SetTree → Span
  | literal l => l.span
  | nothing span | range span _ _ | named span _ _ | shorthand span _ _ | property span _
  | bracket span _ _ | union span _ | operation span _ _ _ => span

/-! ## Patterns -/

inductive Mode where
  | ignoreCase
  | multiLine
  | dotAll
  | swapGreed
  | unicode
  | returns
  | ignoreBlanks
deriving DecidableEq

def Mode.ofLetter? : Char → Option Mode
  | 'i' => some ignoreCase
  | 'm' => some multiLine
  | 's' => some dotAll
  | 'U' => some swapGreed
  | 'u' => some unicode
  | 'R' => some returns
  | 'x' => some ignoreBlanks
  | _ => none

/-- What stands in a list of flags. Modes after a negation are switched off. -/
inductive FlagItem where
  | negation
  | mode (mode : Mode)
deriving DecidableEq

/-- What a list of flags says about a mode. -/
def setting? (mode : Mode) : List FlagItem → Option Bool
  | [] => none
  | .negation :: items => if items.contains (.mode mode) then some false else none
  | .mode m :: items => if m = mode then some true else setting? mode items

inductive Assertion where
  | lineStart
  | lineEnd
  | textStart
  | textEnd
  | wordBoundary
  | noWordBoundary
  | wordStart
  | wordEnd
  | wordStartHalf
  | wordEndHalf
deriving DecidableEq

inductive Tree where
  | empty (span : Span)
  | flags (span : Span) (items : List FlagItem)
  | literal (literal : Literal)
  | dot (span : Span)
  | assertion (span : Span) (assertion : Assertion)
  | set (set : SetTree)
  | repetition (span : Span) (item : Tree) (least : Nat) (most : Option Nat)
  | group (span : Span) (items : List FlagItem) (captures : Bool) (inner : Tree)
  | sequence (span : Span) (items : List Tree)
  | choice (span : Span) (items : List Tree)

def Tree.span : Tree → Span
  | literal l => l.span
  | set s => s.span
  | empty span | flags span _ | dot span | assertion span _ | repetition span _ _ _
  | group span _ _ _ | sequence span _ | choice span _ => span

/-! ## Depth -/

mutual

/-- The first part of a set that lies deeper than a depth allows. -/
def SetTree.tooDeep? (depth : Nat) : SetTree → Option Span
  | .nothing _ | .literal _ | .range _ _ _ | .named _ _ _ | .shorthand _ _ _ | .property _ _ => none
  | .bracket span _ inner =>
    match depth with
    | 0 => some span
    | depth + 1 => inner.tooDeep? depth
  | .union span items =>
    match depth with
    | 0 => some span
    | depth + 1 => SetTree.anyTooDeep? depth items
  | .operation span _ left right =>
    match depth with
    | 0 => some span
    | depth + 1 => (left.tooDeep? depth).or (right.tooDeep? depth)

def SetTree.anyTooDeep? (depth : Nat) : List SetTree → Option Span
  | [] => none
  | item :: items => (item.tooDeep? depth).or (SetTree.anyTooDeep? depth items)

end

mutual

/-- The first part of a pattern that lies deeper than a depth allows. -/
def Tree.tooDeep? (depth : Nat) : Tree → Option Span
  | .empty _ | .flags _ _ | .literal _ | .dot _ | .assertion _ _ => none
  | .set s => s.tooDeep? depth
  | .repetition span item _ _ =>
    match depth with
    | 0 => some span
    | depth + 1 => item.tooDeep? depth
  | .group span _ _ inner =>
    match depth with
    | 0 => some span
    | depth + 1 => inner.tooDeep? depth
  | .sequence span items =>
    match depth with
    | 0 => some span
    | depth + 1 => Tree.anyTooDeep? depth items
  | .choice span items =>
    match depth with
    | 0 => some span
    | depth + 1 => Tree.anyTooDeep? depth items

def Tree.anyTooDeep? (depth : Nat) : List Tree → Option Span
  | [] => none
  | item :: items => (item.tooDeep? depth).or (Tree.anyTooDeep? depth items)

end

end Regroup.Pattern
