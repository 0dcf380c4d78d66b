import Regroup.Pattern.Position

/-!
# Faults of a pattern

A fault says what is wrong in a pattern and where. Its report shows the pattern with the faulty part
underlined. A pattern of several lines is shown between dividers with its lines numbered, and a
faulty part that goes over several lines is described in words.
-/

namespace Regroup.Pattern

inductive FaultKind where
  | escapeInSet
  | rangeReversed
  | rangeWithoutLiteral
  | setUnclosed
  | decimalInvalid
  | hexEmpty
  | hexInvalid
  | hexDigitInvalid
  | escapeIncomplete
  | escapeUnknown
  | negationDangling
  | flagRepeated
  | negationRepeated
  | flagMissing
  | flagUnknown
  | nameRepeated
  | nameEmpty
  | nameInvalid
  | nameUnclosed
  | groupUnclosed
  | groupUnopened
  | nestedTooDeeply
  | countReversed
  | countEmpty
  | countUnclosed
  | nothingToRepeat
  | boundaryUnclosed
  | boundaryUnknown
  | boundaryOrCountUnclosed
  | propertyInvalid
  | backreference
  | lookAround
  | unicodeNotAllowed
  | invalidUtf8
  | propertyUnknown
  | propertyValueUnknown
  | shorthandUnavailable
  | caseUnavailable
deriving DecidableEq

/-- How deeply the parts of a pattern may be nested. -/
def maxDepth : Nat := 250

def FaultKind.text : FaultKind → String
  | escapeInSet => "invalid escape sequence found in character class"
  | rangeReversed => "invalid character class range, the start must be <= the end"
  | rangeWithoutLiteral => "invalid range boundary, must be a literal"
  | setUnclosed => "unclosed character class"
  | decimalInvalid => "decimal literal invalid"
  | hexEmpty => "hexadecimal literal empty"
  | hexInvalid => "hexadecimal literal is not a Unicode scalar value"
  | hexDigitInvalid => "invalid hexadecimal digit"
  | escapeIncomplete => "incomplete escape sequence, reached end of pattern prematurely"
  | escapeUnknown => "unrecognized escape sequence"
  | negationDangling => "dangling flag negation operator"
  | flagRepeated => "duplicate flag"
  | negationRepeated => "flag negation operator repeated"
  | flagMissing => "expected flag but got end of regex"
  | flagUnknown => "unrecognized flag"
  | nameRepeated => "duplicate capture group name"
  | nameEmpty => "empty capture group name"
  | nameInvalid => "invalid capture group character"
  | nameUnclosed => "unclosed capture group name"
  | groupUnclosed => "unclosed group"
  | groupUnopened => "unopened group"
  | nestedTooDeeply => s!"exceed the maximum number of nested parentheses/brackets ({maxDepth})"
  | countReversed => "invalid repetition count range, the start must be <= the end"
  | countEmpty => "repetition quantifier expects a valid decimal"
  | countUnclosed => "unclosed counted repetition"
  | nothingToRepeat => "repetition operator missing expression"
  | boundaryUnclosed =>
    "special word boundary assertion is either unclosed or contains an invalid character"
  | boundaryUnknown =>
    "unrecognized special word boundary assertion, valid choices are: start, end, " ++
      "start-half or end-half"
  | boundaryOrCountUnclosed =>
    "found either the beginning of a special word boundary or a bounded repetition on a \\b " ++
      "with an opening brace, but no closing brace"
  | propertyInvalid => "invalid Unicode character class"
  | backreference => "backreferences are not supported"
  | lookAround => "look-around, including look-ahead and look-behind, is not supported"
  | unicodeNotAllowed => "Unicode not allowed here"
  | invalidUtf8 => "pattern can match invalid UTF-8"
  | propertyUnknown => "Unicode property not found"
  | propertyValueUnknown => "Unicode property value not found"
  | shorthandUnavailable =>
    "Unicode-aware Perl class not found (make sure the unicode-perl feature is enabled)"
  | caseUnavailable =>
    "Unicode-aware case insensitivity matching is not available (make sure the unicode-case " ++
      "feature is enabled)"

/-- `earlier` is the part that a faulty repetition repeats. -/
structure Fault where
  kind : FaultKind
  span : Span
  earlier : Option Span := none
deriving DecidableEq

/-! ## Reports -/

def withoutReturn (line : String) : String :=
  if line.endsWith "\r" then (line.dropEnd 1).toString else line

/-- The lines of a text. The last one need not have an end. -/
def linesOf (text : String) : List String :=
  let pieces := text.splitOn "\n"
  let ended := pieces.dropLast.map withoutReturn
  match pieces.getLast? with
  | none | some "" => ended
  | some last => ended ++ [last]

def times (count : Nat) (c : Char) : String :=
  String.ofList (List.replicate count c)

/-- Underlines spans that lie on one line and follow each other. -/
def underline : (column : Nat) → List Span → String
  | _, [] => ""
  | column, span :: spans =>
    let blanks := span.start.column - column
    let marks := max 1 span.width
    times blanks ' ' ++ times marks '^' ++ underline (column + blanks + marks) spans

namespace Fault

/-- The faulty parts in the order of the pattern. -/
def spans (f : Fault) : List Span :=
  match f.earlier with
  | none => [f.span]
  | some earlier =>
    if earlier.start.isBefore f.span.start then [earlier, f.span] else [f.span, earlier]

/-- One line, and below it its underlining if a faulty part is on it. -/
def shownLine (f : Fault) (margin : Nat → String) (number : Nat) (line : String) : String :=
  let here := f.spans.filter fun span ↦ span.isOneLine && span.start.line == number
  let below := times (margin number).length ' ' ++ underline 1 here ++ "\n"
  margin number ++ line ++ "\n" ++ if here.isEmpty then "" else below

def shownLines (f : Fault) (margin : Nat → String) (lines : List String) : String :=
  String.join ((lines.zip (List.range lines.length)).map fun (line, i) ↦
    f.shownLine margin (i + 1) line)

/-- The number of a line, flush right. -/
def numberMargin (width number : Nat) : String :=
  times (width - (toString number).length) ' ' ++ s!"{number}: "

def inWords (span : Span) : String :=
  s!"on line {span.start.line} (column {span.start.column}) through line {span.stop.line} " ++
    s!"(column {span.stop.column - 1})\n"

/-- The report of a fault in a pattern. -/
def report (f : Fault) (pattern : String) : String :=
  let lines := linesOf pattern
  let shown :=
    if pattern.contains '\n' then
      let count := lines.length + if pattern.endsWith "\n" then 1 else 0
      let margin := numberMargin (toString count).length
      let divider := times 79 '~' ++ "\n"
      let described := String.join ((f.spans.filter fun span ↦ !span.isOneLine).map inWords)
      divider ++ f.shownLines margin lines ++ divider ++ described
    else f.shownLines (fun _ ↦ "    ") lines
  s!"regex parse error:\n{shown}error: {f.kind.text}"

end Fault

end Regroup.Pattern
