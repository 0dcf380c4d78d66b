import Regroup.Pattern.Cursor
import Regroup.Pattern.Tree
import Regroup.Text.Numeral

/-!
# Escapes

A backslash begins an escape. It makes the character behind it literal, writes a character by its
number, or stands for a set of characters or an assertion.
-/

namespace Regroup.Pattern

/-- A part of a pattern that is not made of other parts. -/
inductive Primitive where
  | literal (literal : Literal)
  | dot (span : Span)
  | assertion (span : Span) (assertion : Assertion)
  | set (set : SetTree)

def Primitive.tree : Primitive → Tree
  | literal l => .literal l
  | dot span => .dot span
  | assertion span a => .assertion span a
  | set s => .set s

def Primitive.span (primitive : Primitive) : Span :=
  primitive.tree.span

/-! ## Kinds of escapes -/

/-- Characters that mean something in a pattern. -/
def isMeta (c : Char) : Bool :=
  ['\\', '.', '+', '*', '?', '(', ')', '|', '[', ']', '\x7b', '\x7d', '^', '$', '#', '&', '-',
    '~'].contains c

/-- A backslash makes every sign of the basic characters literal, except the angle brackets. -/
def isEscapable (c : Char) : Bool :=
  isMeta c || (c.toNat < 128 && !c.isAlphanum && c ≠ '<' && c ≠ '>')

def isHexDigit (c : Char) : Bool :=
  (Text.digit? 16 c).isSome

/-- The character of a number to base 16. -/
def charOfHex? (digits : List Char) : Option Char :=
  let number := (digits.filterMap (Text.digit? 16)).foldl (fun number d ↦ 16 * number + d) 0
  if number.isValidChar then some (Char.ofNat number) else none

/-- The characters that a letter behind a backslash stands for. -/
def controlNamed? : Char → Option Char
  | 'a' => some '\x07'
  | 'f' => some '\x0C'
  | 't' => some '\t'
  | 'n' => some '\n'
  | 'r' => some '\r'
  | 'v' => some '\x0B'
  | _ => none

def assertionNamed? : Char → Option Assertion
  | 'A' => some .textStart
  | 'z' => some .textEnd
  | 'b' => some .wordBoundary
  | 'B' => some .noWordBoundary
  | '<' => some .wordStart
  | '>' => some .wordEnd
  | _ => none

/-- Shorthands, and whether they are negated. -/
def shorthandNamed? : Char → Option (NamedSet × Bool)
  | 'd' => some (.digit, false)
  | 's' => some (.space, false)
  | 'w' => some (.word, false)
  | 'D' => some (.digit, true)
  | 'S' => some (.space, true)
  | 'W' => some (.word, true)
  | _ => none

/-- How many digits follow a letter that introduces a number. -/
def hexLengthOf? : Char → Option Nat
  | 'x' => some 2
  | 'u' => some 4
  | 'U' => some 8
  | _ => none

namespace Reading

/-- Reads a number of digits. -/
def hexDigits : Nat → Reading (List Char)
  | 0 => return []
  | count + 1 => do
    let cursor ← get
    match cursor.rest with
    | [] => fail .escapeIncomplete cursor.emptySpan
    | c :: _ =>
      if isHexDigit c then
        step
        return c :: (← hexDigits count)
      else fail .hexDigitInvalid cursor.charSpan

/-- Reads a number between braces, from the opening one on. -/
def bracedHex : Reading Char := do
  let brace ← position
  let inner := (← get).charSpan.stop
  step
  let digits ← collect isHexDigit Cursor.step
  let cursor ← get
  match cursor.rest with
  | [] => fail .escapeIncomplete (← spanFrom brace)
  | '\x7d' :: _ =>
    step
    if digits.isEmpty then fail .hexEmpty (← spanFrom brace)
    else
      match charOfHex? digits with
      | some c => return c
      | none => fail .hexInvalid ⟨inner, cursor.position⟩
  | _ => fail .hexDigitInvalid cursor.charSpan

/-- Reads a character that is written by its number, from the letter on. -/
def numbered (start : Position) (isByte : Bool) (length : Nat) : Reading Literal := do
  step
  match ← peek? with
  | none => fail .escapeIncomplete (← get).emptySpan
  | some '\x7b' =>
    let c ← bracedHex
    return ⟨← spanFrom start, c, false⟩
  | some _ =>
    let first ← position
    let digits ← hexDigits length
    match charOfHex? digits with
    | some c => return ⟨← spanFrom start, c, isByte⟩
    | none => fail .hexInvalid (← spanFrom first)

/-- A name, or a name and a value that are told apart by `!=`, `:` or `=`. -/
def propertyOf (text : String) : Property :=
  let cutAt? (separator : String) : Option Property :=
    match text.splitOn separator with
    | [] | [_] => none
    | name :: values => some ⟨name, some (separator.intercalate values)⟩
  ((cutAt? "!=").or ((cutAt? ":").or (cutAt? "="))).getD ⟨text, none⟩

/-- Reads a property, from the letter that introduces it on. -/
def property (start : Position) : Reading SetTree := do
  step
  let cursor ← get
  match cursor.rest with
  | [] => fail .escapeIncomplete cursor.emptySpan
  | '\x7b' :: _ =>
    step
    let text ← collect (· ≠ '\x7d') Cursor.step
    let cursor ← get
    if cursor.rest.isEmpty then fail .escapeIncomplete cursor.emptySpan
    else
      advance
      return .property (← spanFrom start) (propertyOf (String.ofList text))
  | '\\' :: _ => fail .propertyInvalid cursor.charSpan
  | c :: _ =>
    step
    return .property (← spanFrom start) ⟨String.ofList [c], none⟩

def isBoundaryLetter (c : Char) : Bool :=
  c.isAlpha || c = '-'

def boundaryNamed? (name : List Char) : Option Assertion :=
  match String.ofList name with
  | "start" => some .wordStart
  | "end" => some .wordEnd
  | "start-half" => some .wordStartHalf
  | "end-half" => some .wordEndHalf
  | _ => none

/-- Reads the name of a word boundary between braces, from the opening one on. What begins with
neither a letter nor a dash is left to be read as a count. -/
def boundaryName? (start : Position) : Reading (Option Assertion) := do
  let before ← get
  step
  let cursor ← get
  match cursor.rest with
  | [] => fail .boundaryOrCountUnclosed (← spanFrom start)
  | c :: _ =>
    if !isBoundaryLetter c then
      set before
      return none
    else
      let name ← collect isBoundaryLetter Cursor.step
      let behind ← get
      match behind.rest with
      | '\x7d' :: _ =>
        advance
        match boundaryNamed? name with
        | some a => return some a
        | none => fail .boundaryUnknown ⟨cursor.position, behind.position⟩
      | _ => fail .boundaryUnclosed (← spanFrom before.position)

/-- Reads what may follow the escape of a word boundary. -/
def boundary (start : Position) : Reading Primitive := do
  let span ← spanFrom start
  match ← peek? with
  | some '\x7b' =>
    match ← boundaryName? start with
    | some a => return .assertion (← spanFrom start) a
    | none => return .assertion span .wordBoundary
  | _ => return .assertion span .wordBoundary

/-! ## All escapes -/

/-- Reads an escape whose whole is the backslash and a character. -/
def simpleEscape (start : Position) (c : Char) : Reading Primitive := do
  advance
  let span ← spanFrom start
  if isEscapable c then return .literal ⟨span, c, false⟩
  else
    match controlNamed? c, shorthandNamed? c, assertionNamed? c with
    | some control, _, _ => return .literal ⟨span, control, false⟩
    | _, some (s, negated), _ => return .set (.shorthand span s negated)
    | _, _, some .wordBoundary => boundary start
    | _, _, some a => return .assertion span a
    | _, _, none => fail .escapeUnknown span

/-- Reads an escape, from the backslash on. -/
def escape : Reading Primitive := do
  let start ← position
  advance
  let cursor ← get
  match cursor.rest with
  | [] => fail .escapeIncomplete (← spanFrom start)
  | c :: _ =>
    if c.isDigit then fail .backreference ⟨start, cursor.charSpan.stop⟩
    else if c = 'p' || c = 'P' then return .set (← property start)
    else
      match hexLengthOf? c with
      | some length => return .literal (← numbered start (c = 'x') length)
      | none => simpleEscape start c

end Reading

end Regroup.Pattern
